import Trimtab.Supervisor

set_option autoImplicit false

/-! What a tick of the supervisor does to the store, the process and the memory. -/
namespace Trimtab
open PyText Effects

namespace Supervisor

variable {σ ι : Type} (S : Supervisor σ ι)

theorem record_run (s : Supervising σ) (applied : Option Int) (state detail : String) :
    (S.record applied state detail).run s =
      .ok () { s with store := s.store.recorded S.replicaId S.group applied state detail } := rfl

theorem report_run (s : Supervising σ) (state detail : String) :
    (S.report state detail).run s =
      .ok () { s with
        store := s.store.recorded S.replicaId S.group s.appliedVersionId state detail } := rfl

/-- Nobody serves behind this handle. -/
def Down (proc : Option (Popen σ)) : Prop := ∀ p, proc ≠ some (.serving p)

theorem down_none : Down (none : Option (Popen σ)) := fun _ => nofun

theorem down_exited : Down (some (.exited : Popen σ)) := fun _ => nofun

theorem down_of_not_alive {s : Supervising σ} (h : s.alive = false) : Down s.proc := by
  intro p hproc
  rw [Supervising.alive, Supervising.serving?, hproc] at h
  cases h

theorem serving_of_alive {s : Supervising σ} (h : s.alive = true) :
    ∃ p, s.proc = some (.serving p) := by
  unfold Supervising.alive Supervising.serving? at h
  split at h
  · exact ⟨_, ‹_›⟩
  · cases h

theorem alive_of_serving {s : Supervising σ} {p : Process σ} (h : s.proc = some (.serving p)) :
    s.alive = true := by
  rw [Supervising.alive, Supervising.serving?, h]
  rfl

def comesUp (cold : Fields) (boot : Boot σ) : Option σ :=
  match S.command.buildCommand cold, boot with
  | .ok _, .healthy _ engine _ => some engine
  | _, _ => none

/-- A launch brings the engine up with its fields, or raises with nobody serving. -/
theorem launch_cases {s : Supervising σ} (hs : Down s.proc) (cold : Fields) (boot : Boot σ) :
    (∃ pid engine seconds, S.comesUp cold boot = some engine ∧
      (S.launch cold boot).run s = .ok seconds { s with
        proc := some (.serving ⟨pid, engineNames cold, engine⟩), coldApplied := some cold }) ∨
    ∃ e proc, S.comesUp cold boot = none ∧ Down proc ∧
      (S.launch cold boot).run s = .error e { s with proc := proc } := by
  unfold launch comesUp
  cases hcmd : S.command.buildCommand cold with
  | error e =>
    exact .inr ⟨e, s.proc, rfl, hs, by simp only [EStateM.run_bind, ofExcept_run]⟩
  | ok cmd =>
    simp only [EStateM.run_bind, ofExcept_run]
    cases boot with
    | healthy pid engine seconds => exact .inl ⟨pid, engine, seconds, rfl, rfl⟩
    | exits returncode => exact .inr ⟨_, some .exited, rfl, down_exited, rfl⟩
    | hangs => exact .inr ⟨_, none, rfl, down_none, rfl⟩
    | unstartable text => exact .inr ⟨_, s.proc, rfl, hs, rfl⟩

inductive Reshaped (s : Supervising σ) (cold : Fields) (meets : Meets σ) :
    Option Unit → Supervising σ → Prop where
  | same (asis : needsReshape s cold = false) : Reshaped s cold meets (some ()) s
  | warmed (store : Store) (reports : s.store.Reports store) (p : Process σ)
      (served : s.proc = some (.serving p)) (needs : needsReshape s cold = true)
      (able : S.warmable s cold = true) (accepted : meets.warm.ok = true) :
      Reshaped s cold meets (some ()) { s with
        store := store
        proc := some (.serving
          ⟨p.pid, p.config.update (engineNames (changed s cold)), meets.warm.engine⟩)
        coldApplied := some cold
        lastReinitS := some meets.warm.seconds
        lastReinitKind := some "warm" }
  | relaunched (store : Store) (reports : s.store.Reports store) (pid : Nat) (engine : σ)
      (seconds : Rat) (needs : needsReshape s cold = true)
      (booted : S.comesUp cold meets.boot = some engine)
      (cool : S.warmable s cold = true → meets.warm.ok = false) :
      Reshaped s cold meets (some ()) { s with
        store := store
        proc := some (.serving ⟨pid, engineNames cold, engine⟩)
        coldApplied := some cold
        lastReinitS := some seconds
        lastReinitKind := some "relaunch" }
  | raised (store : Store) (reports : s.store.Reports store) (proc : Option (Popen σ))
      (down : Down proc) (needs : needsReshape s cold = true)
      (failed : S.comesUp cold meets.boot = none)
      (cool : S.warmable s cold = true → meets.warm.ok = false) :
      Reshaped s cold meets none { s with store := store, proc := proc }

theorem same_refl (cold : Fields) : cold.eqv Json.same cold = true := by
  rw [Dict.eqv_iff]
  intro k
  cases cold.get? k with
  | none => exact .none
  | some v => exact .some (Json.same_iff.mpr rfl)

/-- A relaunch, of an engine that a refused reinit may have been through. -/
theorem reshaped_relaunch {s : Supervising σ} {cold : Fields} {meets : Meets σ}
    (hneeds : needsReshape s cold = true)
    (hcool : S.warmable s cold = true → meets.warm.ok = false) (proc : Option (Popen σ))
    {store : Store} (hreports : s.store.Reports store) :
    Reshaped S s cold meets
      (value? (S.relaunch cold meets.boot) { s with store := store, proc := proc })
      (final (S.relaunch cold meets.boot) { s with store := store, proc := proc }) := by
  let begun : Supervising σ := { s with store := store, proc := proc }
  let told : Store := store.recorded S.replicaId S.group s.appliedVersionId "reinit"
    ("relaunch for " ++ sortedKeys cold)
  let stopped : Supervising σ := { s with store := told, proc := none }
  have hrun : (S.relaunch cold meets.boot).run begun =
      (S.launch cold meets.boot >>= fun seconds => modify fun s => { s with
        lastReinitS := some seconds, lastReinitKind := some "relaunch" }).run stopped := rfl
  have htold : s.store.Reports told :=
    Store.reports_trans hreports (Store.reports_recorded _ _ _ _ _ _)
  rw [EStateM.run_bind] at hrun
  rcases S.launch_cases (s := stopped) down_none cold meets.boot with
    ⟨pid, engine, seconds, hboot, hl⟩ | ⟨e, proc, hfailed, hdown, hl⟩
  · rw [hl] at hrun
    have hend := hrun.trans (EStateM.run_modify ..)
    rw [value?, hend, final_of_ok hend]
    exact .relaunched told htold pid engine seconds hneeds hboot hcool
  · rw [hl] at hrun
    have hend := hrun.trans rfl
    rw [value?, hend, final_of_error hend]
    exact .raised told htold proc hdown hneeds hfailed hcool

theorem alive_of_warmable {s : Supervising σ} {cold : Fields} (h : S.warmable s cold = true) :
    s.alive = true := by
  simp only [warmable, Bool.and_eq_true] at h
  exact h.1.1.1

/-- An accepted reinit leaves nothing to reshape. -/
theorem tryWarm_accepted {s : Supervising σ} {p : Process σ}
    (hproc : s.proc = some (.serving p)) (cold : Fields) {reply : WarmReply σ}
    (hok : reply.ok = true) :
    ∃ store, s.store.Reports store ∧ (S.tryWarm cold reply).run s = .ok () { s with
      store := store
      proc := some (.serving
        ⟨p.pid, p.config.update (engineNames (changed s cold)), reply.engine⟩)
      coldApplied := some cold
      lastReinitS := some reply.seconds
      lastReinitKind := some "warm" } := by
  refine ⟨_, Store.reports_recorded s.store S.replicaId S.group s.appliedVersionId "reinit"
    ("warm reinit " ++ sortedKeys (changed s cold)), ?_⟩
  simp only [tryWarm, EStateM.run_bind, EStateM.run_get, report_run, reinitWarm, EStateM.run_modify,
    Supervising.serving?, hproc, hok, if_true]

theorem tryWarm_refused {s : Supervising σ} {p : Process σ}
    (hproc : s.proc = some (.serving p)) (cold : Fields) {reply : WarmReply σ}
    (hok : reply.ok = false) :
    ∃ store, s.store.Reports store ∧ (S.tryWarm cold reply).run s = .ok () { s with
      store := store, proc := some (.serving { p with engine := reply.engine }) } := by
  refine ⟨_, Store.reports_trans
    (Store.reports_recorded s.store S.replicaId S.group s.appliedVersionId "reinit"
      ("warm reinit " ++ sortedKeys (changed s cold)))
    (Store.reports_recorded _ S.replicaId S.group s.appliedVersionId "reinit"
      ("warm refused " ++ reprDict reply.rejected.entries ++ ", relaunching")), ?_⟩
  simp only [tryWarm, EStateM.run_bind, EStateM.run_get, report_run, reinitWarm, EStateM.run_modify,
    Supervising.serving?, hproc, hok, if_false, Bool.false_eq_true]

theorem reshape_warm {s t : Supervising σ} {cold : Fields} {meets : Meets σ}
    (hneeds : needsReshape s cold = true) (hwarm : S.warmable s cold = true)
    (hrun : (S.tryWarm cold meets.warm).run s = .ok () t) :
    (S.reshape cold meets).run s =
      (if needsReshape t cold then S.relaunch cold meets.boot else pure ()).run t := by
  simp only [reshape, EStateM.run_bind, EStateM.run_get, hneeds, hwarm, if_true, hrun]

theorem settled_of_serving {s : Supervising σ} {cold : Fields} {p : Process σ}
    (hproc : s.proc = some (.serving p)) (hcold : s.coldApplied = some cold) :
    needsReshape s cold = false := by
  rw [needsReshape, alive_of_serving hproc, Supervising.cold, hcold, Option.getD_some, same_refl]
  rfl

theorem reshape_reshaped (s : Supervising σ) (cold : Fields) (meets : Meets σ) :
    Reshaped S s cold meets (value? (S.reshape cold meets) s) (final (S.reshape cold meets) s) := by
  cases hneeds : needsReshape s cold with
  | false =>
    have hrun : (S.reshape cold meets).run s = .ok () s := by
      simp only [reshape, EStateM.run_bind, EStateM.run_get, hneeds, Bool.false_eq_true, if_false,
        EStateM.run_pure]
    rw [value?, hrun, final_of_ok hrun]
    exact .same hneeds
  | true =>
    cases hwarm : S.warmable s cold with
    | false =>
      have hrun : (S.reshape cold meets).run s = (S.relaunch cold meets.boot).run s := by
        simp only [reshape, EStateM.run_bind, EStateM.run_get, hneeds, hwarm, Bool.false_eq_true,
          if_false, if_true]
      rw [value?, final, hrun]
      exact S.reshaped_relaunch hneeds (fun h => by rw [hwarm] at h; cases h) s.proc
        (Store.reports_refl s.store)
    | true =>
      obtain ⟨p, hproc⟩ := serving_of_alive (S.alive_of_warmable hwarm)
      cases hok : meets.warm.ok with
      | true =>
        obtain ⟨store, hreports, hrunw⟩ := S.tryWarm_accepted hproc cold hok
        have hrun := S.reshape_warm hneeds hwarm hrunw
        rw [if_neg (by rw [settled_of_serving rfl rfl]; decide)] at hrun
        have hend := hrun.trans (EStateM.run_pure ..)
        rw [value?, hend, final_of_ok hend]
        exact .warmed store hreports p hproc hneeds hwarm hok
      | false =>
        obtain ⟨store, hreports, hrunw⟩ := S.tryWarm_refused hproc cold hok
        let tried : Supervising σ := { s with
          store := store, proc := some (.serving { p with engine := meets.warm.engine }) }
        have hstill : needsReshape tried cold = true := by
          rw [needsReshape, alive_of_serving hproc] at hneeds
          rw [needsReshape, show tried.cold = s.cold from rfl]
          rw [Bool.not_true, Bool.false_or] at hneeds
          rw [hneeds, Bool.or_true]
        have hrun := S.reshape_warm hneeds hwarm hrunw
        rw [if_pos hstill] at hrun
        rw [value?, final, hrun]
        exact S.reshaped_relaunch hneeds (fun _ => hok) _ hreports

def request (d : ConfigVersion) : Option Fields :=
  let (accepted, rejected) := S.manifest.validate (S.split d.fields).1
  if rejected.entries.isEmpty && !(S.split d.fields).1.entries.isEmpty then some accepted else none

/-- The engine in state `e` would take the hot part of a tick all the way to `d`. -/
def takesHot (e : σ) (d : ConfigVersion) : Bool :=
  (S.manifest.validate (S.split d.fields).1).2.entries.isEmpty &&
    match S.request d with
    | some changes => (value? (S.adapter.setHot changes) e).any (·.ok)
    | none => true

inductive HotApplied (s : Supervising σ) (p : Process σ) (d : ConfigVersion) :
    String → Supervising σ → Prop where
  | rejected (store : Store) (reports : s.store.Reports store) (unsent : S.request d = none)
      (short : S.takesHot p.engine d = false) :
      HotApplied s p d FAILED { s with store := store }
  | refused (store : Store) (reports : s.store.Reports store) (changes : Fields)
      (sent : S.request d = some changes) (short : S.takesHot p.engine d = false) :
      HotApplied s p d FAILED { s with
        store := store
        proc := some (.serving { p with engine := final (S.adapter.setHot changes) p.engine }) }
  | done (store : Store) (reports : s.store.Reports store) (engine' : σ)
      (taken : S.takesHot p.engine d = true)
      (sent : engine' = match S.request d with
        | some changes => final (S.adapter.setHot changes) p.engine
        | none => p.engine)
      (holds : S.adapter.InForce engine' d.fields) :
      HotApplied s p d HEALTHY { s with
        store := store
        proc := some (.serving { p with engine := engine' })
        appliedVersionId := some d.id }

theorem split_hot {fields : Fields} {k : String} {v : Json} :
    (S.split fields).1.get? k = some v ↔
      fields.get? k = some v ∧ S.manifest.coldOrWarm k = false := by
  rw [split, Dict.get?_filter, Option.filter_eq_some_iff, Bool.not_eq_true']

theorem split_cold {fields : Fields} {k : String} {v : Json} :
    (S.split fields).2.get? k = some v ↔
      fields.get? k = some v ∧ S.manifest.coldOrWarm k = true := by
  rw [split, Dict.get?_filter, Option.filter_eq_some_iff]

theorem accepted_of_split {d : ConfigVersion}
    (hclean : (S.manifest.validate (S.split d.fields).1).2.entries = []) {k : String} {v : Json}
    (hk : d.fields.get? k = some v) (hcw : S.manifest.coldOrWarm k = false) :
    (S.manifest.validate (S.split d.fields).1).1.get? k = some v := by
  have hhot := S.split_hot.mpr ⟨hk, hcw⟩
  rw [accepted_get?]
  refine ⟨hhot, ?_⟩
  cases hr : S.manifest.reject k v with
  | none => rfl
  | some text =>
    have hrej := (rejected_get? S.manifest _ k text).mpr ⟨v, hhot, hr⟩
    rw [Dict.get?_eq_some_iff, hclean] at hrej
    cases hrej

theorem fail_run (s : Supervising σ) (detail : String) : (S.fail detail).run s =
    .ok FAILED { s with
      store := s.store.recorded S.replicaId S.group s.appliedVersionId FAILED detail } := rfl

theorem finish_run (s : Supervising σ) (d : ConfigVersion) :
    ∃ store, s.store.Reports store ∧ (S.finish d).run s =
      .ok HEALTHY { s with store := store, appliedVersionId := some d.id } :=
  ⟨_, Store.reports_recorded s.store S.replicaId S.group (some d.id) HEALTHY _, rfl⟩

theorem onEngine_run {α : Type} {s : Supervising σ} {p : Process σ} {engine : σ}
    (hproc : s.proc = some (.serving p)) {x : EStateM PyErr σ α} {a : α}
    (hx : x.run p.engine = .ok a engine) :
    (onEngine x).run s = .ok a { s with proc := some (.serving { p with engine := engine }) } := by
  simp only [onEngine, EStateM.run_bind, EStateM.run_get, Supervising.serving?, hproc, zoom_run, hx]

theorem applyHot_applied {s : Supervising σ} {p : Process σ}
    (hproc : s.proc = some (.serving p)) (d : ConfigVersion) :
    ∃ result t, (S.applyHot d (S.split d.fields).1).run s = .ok result t ∧
      HotApplied S s p d result t := by
  obtain ⟨store₀, _, coldApplied, applied, seconds, kind⟩ := s
  cases hproc
  let on (p : Process σ) : Supervising σ :=
    ⟨store₀, some (.serving p), coldApplied, applied, seconds, kind⟩
  change ∃ result t, (S.applyHot d _).run (on p) = .ok result t ∧
    HotApplied S (on p) p d result t
  have hadmits := validate_admits S.manifest (S.split d.fields).1
  cases he : (S.split d.fields).1.entries.isEmpty with
  | true =>
    obtain ⟨store, hreports, hend⟩ := S.finish_run (on p) d
    have hrun : (S.applyHot d (S.split d.fields).1).run (on p) = (S.finish d).run (on p) := by
      simp only [applyHot, he, if_true]
    have hunsent : S.request d = none := by simp [request, he]
    have htaken : S.takesHot p.engine d = true := by
      rw [takesHot, hunsent, Bool.and_true, List.isEmpty_iff]
      simp [Manifest.validate, Dict.filterMap, List.isEmpty_iff.mp he]
    refine ⟨_, _, hrun.trans hend, .done store hreports p.engine htaken (by rw [hunsent]) ?_⟩
    -- no hot field, so nothing to hold
    intro k v hk hcw
    have hhot := S.split_hot.mpr ⟨hk, hcw⟩
    rw [Dict.get?_eq_some_iff, List.isEmpty_iff.mp he] at hhot
    cases hhot
  | false =>
    cases hb : (S.manifest.validate (S.split d.fields).1).2.entries.isEmpty with
    | false =>
      have hrun : (S.applyHot d (S.split d.fields).1).run (on p) =
          (S.fail ("manifest rejected " ++
            reprDict (S.manifest.validate (S.split d.fields).1).2.entries)).run (on p) := by
        simp only [applyHot, he, hb, Bool.false_eq_true, if_false, Bool.not_false, if_true]
      refine ⟨_, _, hrun.trans (S.fail_run _ _), ?_⟩
      exact .rejected _ (Store.reports_recorded ..) (by simp [request, hb])
        (by rw [takesHot, hb, Bool.false_and])
    | true =>
      obtain ⟨answer, hanswer, -⟩ := S.adapter.answers _ p.engine hadmits
      have hsent : S.request d = some (S.manifest.validate (S.split d.fields).1).1 := by
        simp [request, he, hb]
      let engine' := final (S.adapter.setHot (S.manifest.validate (S.split d.fields).1).1) p.engine
      have hset := onEngine_run (s := on p) rfl hanswer
      have hrun : (S.applyHot d (S.split d.fields).1).run (on p) =
          (if !answer.ok then S.fail ("engine rejected " ++ reprDict answer.rejected.entries)
            else S.finish d).run (on { p with engine := engine' }) := by
        simp only [applyHot, he, hb, Bool.false_eq_true, if_false, Bool.not_true,
          EStateM.run_bind, hset]
        rfl
      have htakes : S.takesHot p.engine d = answer.ok := by
        rw [takesHot, hb, Bool.true_and, hsent]
        exact congrArg (Option.any (·.ok)) (value?_eq_some_iff.mpr hanswer)
      cases hok : answer.ok with
      | false =>
        rw [hok, if_pos (by decide)] at hrun
        refine ⟨_, _, hrun.trans (S.fail_run _ _), ?_⟩
        exact .refused _ (Store.reports_recorded ..) _ hsent (htakes.trans hok)
      | true =>
        obtain ⟨store, hreports, hend⟩ := S.finish_run (on { p with engine := engine' }) d
        rw [hok, if_neg (by decide)] at hrun
        have hforce : S.adapter.InForce engine' d.fields := fun k v hk hcw =>
          S.adapter.live_of_ok hadmits hanswer hok
            (S.accepted_of_split (List.isEmpty_iff.mp hb) hk hcw)
        have hsame : (on p).store.Reports store := hreports
        have hdone : HotApplied S (on p) p d HEALTHY ⟨store,
            some (.serving { p with engine := engine' }), coldApplied, some d.id, seconds, kind⟩ :=
          .done store hsame engine' (htakes.trans hok) (by rw [hsent]) hforce
        exact ⟨_, _, hrun.trans hend, hdone⟩

def target (s : Store) : Option ConfigVersion := s.target S.replicaId S.group

inductive Ticked (s : Supervising σ) (meets : Meets σ) : Option String → Supervising σ → Prop where
  | unread (target : S.target s.store = none) : Ticked s meets none s
  | noop (store : Store) (reports : s.store.Reports store) (up : s.alive = true)
      (exit : ∀ d, S.target s.store = some d → Exits s d) :
      Ticked s meets (some HEALTHY) { s with store := store }
  | revived (store : Store) (reports : s.store.Reports store) (target : S.target s.store = none)
      (dead : s.alive = false) (pid : Nat) (engine : σ) :
      Ticked s meets (some HEALTHY) { s with
        store := store
        proc := some (.serving ⟨pid, engineNames s.cold, engine⟩)
        coldApplied := some s.cold }
  | stuck (target : S.target s.store = none) (dead : s.alive = false) (proc : Option (Popen σ))
      (down : Down proc) : Ticked s meets none { s with proc := proc }
  | raised (d : ConfigVersion) (target : S.target s.store = some d) (new : ¬Exits s d)
      (t : Supervising σ) (reshaped : Reshaped S s (S.split d.fields).2 meets none t) :
      Ticked s meets none t
  | converged (d : ConfigVersion) (target : S.target s.store = some d) (new : ¬Exits s d)
      (t : Supervising σ) (reshaped : Reshaped S s (S.split d.fields).2 meets (some ()) t)
      (p : Process σ) (served : t.proc = some (.serving p))
      (result : String) (u : Supervising σ) (applied : HotApplied S t p d result u) :
      Ticked s meets (some result) u

/-- A cold part with nothing to do does nothing. -/
theorem reshaped_settled {s t : Supervising σ} {cold : Fields} {meets : Meets σ}
    {result : Option Unit} (h : Reshaped S s cold meets result t)
    (hsettled : needsReshape s cold = false) : result = some () ∧ t = s := by
  cases h with
  | same asis => exact ⟨rfl, rfl⟩
  | warmed store reports p served needs able accepted =>
    rw [hsettled] at needs
    cases needs
  | relaunched store reports pid engine seconds needs booted cool =>
    rw [hsettled] at needs
    cases needs
  | raised store reports proc down needs failed cool =>
    rw [hsettled] at needs
    cases needs

/-- After the cold part the engine serves. -/
theorem serving_of_reshaped {s t : Supervising σ} {cold : Fields} {meets : Meets σ}
    (h : Reshaped S s cold meets (some ()) t) :
    ∃ p, t.proc = some (.serving p) := by
  cases h with
  | same asis =>
    have halive : s.alive = true := by
      rw [needsReshape, Bool.or_eq_false_iff] at asis
      simpa using asis.1
    exact serving_of_alive halive
  | warmed store reports p served needs able accepted => exact ⟨_, rfl⟩
  | relaunched store reports pid engine seconds needs booted cool => exact ⟨_, rfl⟩

theorem ticked_of_converge {s : Supervising σ} {d : ConfigVersion} (meets : Meets σ)
    (htarget : S.target s.store = some d) (hnew : ¬Exits s d) :
    Ticked S s meets (value? (S.converge d meets) s) (final (S.converge d meets) s) := by
  have hshape := S.reshape_reshaped s (S.split d.fields).2 meets
  have hrun : (S.converge d meets).run s =
      match (S.reshape (S.split d.fields).2 meets).run s with
      | .ok _ t => (S.applyHot d (S.split d.fields).1).run t
      | .error e t => .error e t := by
    rw [converge, EStateM.run_bind]
    cases (S.reshape (S.split d.fields).2 meets).run s <;> rfl
  cases hr : (S.reshape (S.split d.fields).2 meets).run s with
  | ok u t =>
    rw [value?, hr, final_of_ok hr] at hshape
    rw [hr] at hrun
    obtain ⟨p, hproc⟩ := S.serving_of_reshaped hshape
    obtain ⟨result, u, hend, happlied⟩ := S.applyHot_applied hproc d
    have hrun := hrun.trans hend
    rw [value?, hrun, final_of_ok hrun]
    exact .converged d htarget hnew t hshape p hproc result u happlied
  | error e t =>
    rw [value?, hr, final_of_error hr] at hshape
    rw [hr] at hrun
    rw [value?, hrun, final_of_error hrun]
    exact .raised d htarget hnew t hshape

theorem ticked_of_idle {s : Supervising σ} (meets : Meets σ) (htarget : S.target s.store = none) :
    Ticked S s meets (value? (S.idle meets) s) (final (S.idle meets) s) := by
  cases halive : s.alive with
  | true =>
    have hrun : (S.idle meets).run s = .ok HEALTHY { s with
        store := s.store.recorded S.replicaId S.group none HEALTHY "" } := by
      simp only [idle, EStateM.run_bind, EStateM.run_get, halive, Bool.not_true, Bool.false_eq_true,
        if_false, record_run]
      rfl
    rw [value?, hrun, final_of_ok hrun]
    refine .noop _ (Store.reports_recorded ..) halive fun d hd => ?_
    rw [htarget] at hd
    cases hd
  | false =>
    rcases S.launch_cases (down_of_not_alive halive) s.cold meets.boot with
      ⟨pid, engine, seconds, -, hl⟩ | ⟨e, proc, -, hdown, hl⟩
    · have hrun : (S.idle meets).run s = .ok HEALTHY { s with
          store := s.store.recorded S.replicaId S.group none HEALTHY ""
          proc := some (.serving ⟨pid, engineNames s.cold, engine⟩)
          coldApplied := some s.cold } := by
        simp only [idle, EStateM.run_bind, EStateM.run_get, halive, Bool.not_false, if_true, hl,
          record_run]
        rfl
      rw [value?, hrun, final_of_ok hrun]
      exact .revived _ (Store.reports_recorded ..) htarget halive pid engine
    · have hrun : (S.idle meets).run s = .error e { s with proc := proc } := by
        simp only [idle, EStateM.run_bind, EStateM.run_get, halive, Bool.not_false, if_true, hl]
      rw [value?, hrun, final_of_error hrun]
      exact .stuck htarget halive proc hdown

theorem tick_ticked (s : Supervising σ) (meets : Meets σ) :
    Ticked S s meets (value? (S.tick meets) s) (final (S.tick meets) s) := by
  rcases Store.desiredFor_reads s.store S.replicaId S.group with ⟨d, hd⟩ | ⟨e, he⟩
  · have hread : (onStore (Store.desiredFor S.replicaId S.group) : SuperviseM σ _).run s =
        .ok d s := by
      rw [onStore, zoom_run, hd]
    cases d with
    | none =>
      have htarget : S.target s.store = none := by rw [target, Store.target, value?, hd]; rfl
      have hrun : (S.tick meets).run s = (S.idle meets).run s := by
        simp only [tick, EStateM.run_bind, hread]
      have hi := S.ticked_of_idle meets htarget
      rwa [value?, final, ← hrun] at hi
    | some d =>
      have htarget : S.target s.store = some d := Store.target_eq_some.mpr hd
      by_cases hexit : Exits s d
      · have hrun : (S.tick meets).run s = .ok HEALTHY { s with
            store := s.store.recorded S.replicaId S.group (some d.id) HEALTHY "" } := by
          simp only [tick, EStateM.run_bind, hread, EStateM.run_get, if_pos hexit, record_run]
          rfl
        rw [value?, hrun, final_of_ok hrun]
        refine .noop _ (Store.reports_recorded ..) hexit.2 fun d' hd' => ?_
        rw [htarget] at hd'
        cases hd'
        exact hexit
      · have hrun : (S.tick meets).run s = (S.converge d meets).run s := by
          simp only [tick, EStateM.run_bind, hread, EStateM.run_get, if_neg hexit]
        have hc := S.ticked_of_converge meets htarget hexit
        rwa [value?, final, ← hrun] at hc
  · have hread : (onStore (Store.desiredFor S.replicaId S.group) : SuperviseM σ _).run s =
        .error e s := by
      rw [onStore, zoom_run, he]
    have hrun : (S.tick meets).run s = .error e s := by
      simp only [tick, EStateM.run_bind, hread]
    rw [value?, hrun, final_of_error hrun]
    exact .unread (by rw [target, Store.target, value?, he]; rfl)

def finds (s : Supervising σ) (cold : Fields) (meets : Meets σ) : Option σ :=
  if needsReshape s cold then
    if S.warmable s cold && meets.warm.ok then some meets.warm.engine
    else S.comesUp cold meets.boot
  else s.serving?.map (·.engine)

def reaches (s : Supervising σ) (d : ConfigVersion) (meets : Meets σ) : Bool :=
  (S.finds s (S.split d.fields).2 meets).any fun e => S.takesHot e d

theorem not_warmed {s : Supervising σ} {cold : Fields} {meets : Meets σ}
    (cool : S.warmable s cold = true → meets.warm.ok = false) :
    (S.warmable s cold && meets.warm.ok) = false := by
  cases hw : S.warmable s cold with
  | false => rfl
  | true => rw [cool hw, Bool.and_false]

theorem finds_of_reshaped {s t : Supervising σ} {cold : Fields} {meets : Meets σ} {p : Process σ}
    (h : Reshaped S s cold meets (some ()) t) (hp : t.proc = some (.serving p)) :
    S.finds s cold meets = some p.engine := by
  unfold finds
  cases h with
  | same asis =>
    simp only [asis, Bool.false_eq_true, if_false, Supervising.serving?, hp, Option.map_some]
  | warmed store reports q served needs able accepted =>
    cases hp
    simp only [needs, able, accepted, Bool.and_self, if_true]
  | relaunched store reports pid engine seconds needs booted cool =>
    cases hp
    simp only [needs, if_true, S.not_warmed cool, Bool.false_eq_true, if_false, booted]

theorem finds_of_raised {s t : Supervising σ} {cold : Fields} {meets : Meets σ}
    (h : Reshaped S s cold meets none t) : S.finds s cold meets = none := by
  unfold finds
  cases h with
  | raised store reports proc down needs failed cool =>
    simp only [needs, if_true, S.not_warmed cool, Bool.false_eq_true, if_false, failed]

end Supervisor
end Trimtab
