import Trimtab.ReconcilerTruth
import Trimtab.SupervisorRefusal
import Trimtab.SupervisorTruth

set_option autoImplicit false

/-!
# A supervisor on the hot path

The supervisor and the reconciler are two loops over the same store and the same adapter. While
its engine stays up and no version asks for a cold field, the supervisor is a reconciler.
-/
namespace Trimtab.SupervisedDaemon
open PyText Effects Runs
open Reconciler (coldOf badOf)

variable {σ ι : Type} (S : Supervisor σ ι)

def daemon : Reconciler σ ι := ⟨S.manifest, S.adapter, S.replicaId, S.group⟩

/-- What a reconciler beside the process `p` would work on. -/
def hot (p : Process σ) (s : Supervising σ) : Reconciling σ :=
  ⟨s.store, s.appliedVersionId, p.engine⟩

def put (p : Process σ) (t : Reconciling σ) (s : Supervising σ) : Supervising σ :=
  { s with
    store := t.store
    proc := some (.serving { p with engine := t.engine })
    appliedVersionId := t.appliedVersionId }

/-- The process serves, was launched without cold fields and has been through no reinit. -/
structure Beside (p : Process σ) (s : Supervising σ) : Prop where
  served : s.proc = some (.serving p)
  plain : s.cold.entries = []
  fresh : s.lastReinitS = none

/-- A tick finds a version without cold or warm fields, or none and nothing applied yet. -/
structure HotOnly (s : Supervising σ) : Prop where
  hot : ∀ d, S.target s.store = some d → ∀ k v, d.fields.get? k = some v →
    S.manifest.coldOrWarm k = false
  empty : value? (Store.desiredFor S.replicaId S.group) s.store = some none →
    s.appliedVersionId = none

variable {S}

/-! ## One tick -/

theorem split_hotOnly {fields : Fields}
    (h : ∀ k v, fields.get? k = some v → S.manifest.coldOrWarm k = false) :
    S.split fields = (fields, ∅) := by
  have hall : (S.split fields).1 = fields := by
    change fields.filter (fun k _ => !S.manifest.coldOrWarm k) = fields
    exact Dict.filter_eq_self fun k v hk => by rw [h k v hk, Bool.not_false]
  have hnone : (S.split fields).2 = ∅ := by
    refine Dict.eq_empty fun k => ?_
    rw [Supervisor.split, Dict.get?_filter, Option.filter_eq_none_iff]
    intro v hv
    rw [h k v hv]
    decide
  exact Prod.ext hall hnone

/-- Without cold or warm fields every refusal is a bad one. -/
theorem badOf_hotOnly {m : Manifest} (hm : m.PlainChoices) {fields : Fields}
    (h : ∀ k v, fields.get? k = some v → m.coldOrWarm k = false) :
    coldOf (m.validate fields).2 = ∅ ∧ badOf (m.validate fields).2 = (m.validate fields).2 := by
  have hcold : coldOf (m.validate fields).2 = ∅ := by
    refine Dict.eq_empty fun k => ?_
    rw [coldOf, Dict.get?_filter, Option.filter_eq_none_iff]
    intro text htext
    obtain ⟨v, hv, hr⟩ := (rejected_get? m fields k text).mp htext
    have hplain := reject_plain hm (h k v hv) hr
    simp [hplain.1, hplain.2]
  refine ⟨hcold, Dict.filter_eq_self fun k text _ => ?_⟩
  rw [hcold]
  rfl

/-- Fields without a refusal are accepted as they are. -/
theorem validate_of_clean {m : Manifest} {fields : Fields}
    (h : (m.validate fields).2.entries.isEmpty = true) : m.validate fields = (fields, ∅) := by
  refine validate_of_admits fun k v hv => ?_
  cases hr : m.reject k v with
  | none => rfl
  | some text =>
    have hrej := (rejected_get? m fields k text).mpr ⟨v, hv, hr⟩
    rw [Dict.get?_eq_some_iff, List.isEmpty_iff.mp h] at hrej
    cases hrej

variable {p : Process σ} {s : Supervising σ}

theorem alive_of_beside (hs : Beside p s) : s.alive = true := by
  rw [Supervising.alive, Supervising.serving?, hs.served]
  rfl

theorem put_self (hs : Beside p s) (store : Store) (applied : Option Int) :
    put p ⟨store, applied, p.engine⟩ s = { s with store := store, appliedVersionId := applied } := by
  obtain ⟨store', proc, coldApplied, applied', seconds, kind⟩ := s
  cases hs.served
  rfl

theorem finish_run (hs : Beside p s) (d : ConfigVersion) (engine : σ) :
    (S.finish d).run (put p ⟨s.store, s.appliedVersionId, engine⟩ s) = .ok HEALTHY
      (put p ⟨s.store.recorded S.replicaId S.group (some d.id) HEALTHY "", some d.id, engine⟩ s) := by
  simp only [Supervisor.finish, EStateM.run_bind, EStateM.run_modify, EStateM.run_get, put,
    hs.fresh, Supervisor.record_run]
  rfl

/-- The end of a reconciler's tick, over a store that has its report of the beginning. -/
theorem conclude_run (store : Store) (applied before : Option Int) (engine : σ) (d : ConfigVersion)
    (state detail : String) {result : ApplyResult} (hok : result.ok = true) :
    ((daemon S).conclude d ∅ result).run
        ⟨store.recorded S.replicaId S.group before state detail, applied, engine⟩ =
      .ok HEALTHY ⟨store.recorded S.replicaId S.group (some d.id) HEALTHY "", some d.id, engine⟩ := by
  have hempty : (∅ : Dict String String).entries.isEmpty = true := rfl
  simp only [Reconciler.concludeOver, hok, hempty, Bool.not_true, Bool.false_eq_true, if_false,
    EStateM.run_bind, EStateM.run_modify, Reconciler.recordOver_run]
  exact congrArg (fun t => EStateM.Result.ok HEALTHY (Reconciling.mk t (some d.id) engine))
    (Store.recorded_recorded ..)

theorem conclude_failed (store : Store) (applied before : Option Int) (engine : σ)
    (d : ConfigVersion) (state detail : String) {result : ApplyResult} (hok : result.ok = false) :
    ((daemon S).conclude d ∅ result).run
        ⟨store.recorded S.replicaId S.group before state detail, applied, engine⟩ =
      .ok FAILED ⟨store.recorded S.replicaId S.group applied FAILED
        ("engine rejected " ++ reprDict result.rejected.entries), applied, engine⟩ := by
  simp only [Reconciler.concludeOver, hok, Bool.not_false, if_true, EStateM.run_bind, EStateM.run_get,
    Reconciler.recordOver_run]
  exact congrArg (fun t => EStateM.Result.ok FAILED (Reconciling.mk t applied engine))
    (Store.recorded_recorded ..)

/-- Without cold or warm fields there is nothing to reshape the engine for. -/
theorem converge_hotOnly (hs : Beside p s) (meets : Meets σ) {d : ConfigVersion}
    (h : ∀ k v, d.fields.get? k = some v → S.manifest.coldOrWarm k = false) :
    (S.converge d meets).run s = (S.applyHot d d.fields).run s := by
  have hneeds : Supervisor.needsReshape s ∅ = false := by
    rw [Supervisor.needsReshape, alive_of_beside hs, Dict.eqv_iff.mpr fun k => ?_]
    · rfl
    · have hnone : s.cold.get? k = none := by
        rw [Dict.get?, hs.plain]
        rfl
      rw [hnone]
      exact .none
  have hreshape : (S.reshape ∅ meets).run s = .ok () s := by
    simp only [Supervisor.reshape, EStateM.run_bind, EStateM.run_get, hneeds, Bool.false_eq_true,
      if_false, EStateM.run_pure]
  rw [Supervisor.converge, split_hotOnly h]
  simp only [EStateM.run_bind, hreshape]

/-- A version that the manifest rejects is refused by both loops. -/
theorem rejected_same (hm : S.manifest.PlainChoices) (hs : Beside p s) {d : ConfigVersion}
    (h : ∀ k v, d.fields.get? k = some v → S.manifest.coldOrWarm k = false)
    (hb : (S.manifest.validate d.fields).2.entries.isEmpty = false) :
    (S.applyHot d d.fields).run s = (zoom (hot p) (put p) ((daemon S).converge d)).run s := by
  obtain ⟨-, hbad⟩ := badOf_hotOnly hm h
  have hne : d.fields.entries.isEmpty = false := by
    rw [Bool.eq_false_iff]
    intro hnil
    have hadmits : S.manifest.Admits d.fields := fun k v hv => by
      rw [Dict.get?_eq_some_iff, List.isEmpty_iff.mp hnil] at hv
      cases hv
    rw [validate_of_admits hadmits] at hb
    cases hb
  have hleft : (S.applyHot d d.fields).run s = (S.fail ("manifest rejected " ++
      reprDict (S.manifest.validate d.fields).2.entries)).run s := by
    simp only [Supervisor.applyHot, hne, hb, Bool.false_eq_true, if_false, Bool.not_false, if_true]
  have hright : ((daemon S).converge d).run (hot p s) = .ok FAILED { hot p s with
      store := s.store.recorded S.replicaId S.group s.appliedVersionId FAILED
        ("manifest rejected " ++ reprDict (S.manifest.validate d.fields).2.entries) } := by
    have hb' : (badOf ((daemon S).manifest.validate d.fields).2).entries.isEmpty = false := by
      rw [← hb]
      exact congrArg (fun t => t.entries.isEmpty) hbad
    simp only [Reconciler.convergeOver, EStateM.run_bind, EStateM.run_get, hb', Bool.not_false,
      if_true, Reconciler.recordOver_run]
    rw [show badOf ((daemon S).manifest.validate d.fields).2 = _ from hbad]
    rfl
  rw [hleft, S.fail_run, zoom_run, hright]
  dsimp only
  rw [hot, put_self hs]

/-- A reconciler's tick over a version that the manifest takes as it is. -/
theorem converge_clean {d : ConfigVersion}
    (hvalid : S.manifest.validate d.fields = (d.fields, ∅)) :
    ((daemon S).converge d).run (hot p s) =
      (do let result ← if d.fields.entries.isEmpty then pure (ApplyResult.mk true ∅ ∅)
            else Reconciler.onEngine (S.adapter.setHot d.fields)
          (daemon S).conclude d ∅ result).run
        ⟨s.store.recorded S.replicaId S.group s.appliedVersionId APPLYING "",
          s.appliedVersionId, p.engine⟩ := by
  have hvalid' : (daemon S).manifest.validate d.fields = (d.fields, ∅) := hvalid
  have hclean : (badOf (∅ : Dict String String)).entries.isEmpty = true := rfl
  have hempty : coldOf (∅ : Dict String String) = ∅ := rfl
  simp only [Reconciler.convergeOver, EStateM.run_bind, EStateM.run_get, hvalid', hclean, hempty,
    Bool.not_true, Bool.false_eq_true, if_false, Reconciler.recordOver_run]
  rfl

/-- A version whose fields the engine is asked to take. -/
theorem sent_same (hs : Beside p s) {d : ConfigVersion}
    (hvalid : S.manifest.validate d.fields = (d.fields, ∅))
    (he : d.fields.entries.isEmpty = false) :
    (S.applyHot d d.fields).run s = (zoom (hot p) (put p) ((daemon S).converge d)).run s := by
  rw [zoom_run, converge_clean hvalid]
  have hadmits := validate_admits S.manifest d.fields
  rw [hvalid] at hadmits
  obtain ⟨answer, hanswer, -⟩ := S.adapter.answers d.fields p.engine hadmits
  generalize final (S.adapter.setHot d.fields) p.engine = engine at hanswer
  have hset := Supervisor.onEngine_run hs.served hanswer
  have hleft : (S.applyHot d d.fields).run s =
      (if !answer.ok then S.fail ("engine rejected " ++ reprDict answer.rejected.entries)
        else S.finish d).run (put p ⟨s.store, s.appliedVersionId, engine⟩ s) := by
    have hclean : (∅ : Dict String String).entries.isEmpty = true := rfl
    simp only [Supervisor.applyHot, he, hvalid, hclean, Bool.false_eq_true, if_false,
      Bool.not_true, EStateM.run_bind, hset]
    rfl
  have hsent : (Reconciler.onEngine (S.adapter.setHot d.fields)).run
      ⟨s.store.recorded S.replicaId S.group s.appliedVersionId APPLYING "",
        s.appliedVersionId, p.engine⟩ =
      .ok answer ⟨s.store.recorded S.replicaId S.group s.appliedVersionId APPLYING "",
        s.appliedVersionId, engine⟩ := by
    rw [Reconciler.onEngine, zoom_run, hanswer]
  simp only [hleft, he, Bool.false_eq_true, if_false, EStateM.run_bind, hsent]
  cases hok : answer.ok with
  | true =>
    have hend := conclude_run (S := S) s.store s.appliedVersionId s.appliedVersionId engine d
      APPLYING "" hok
    simp only [Bool.not_true, Bool.false_eq_true, if_false, hend]
    exact finish_run hs d engine
  | false =>
    have hend := conclude_failed (S := S) s.store s.appliedVersionId s.appliedVersionId engine d
      APPLYING "" hok
    simp only [Bool.not_false, if_true, hend]
    exact S.fail_run _ _

/-- Both loops towards a version that is new to them. -/
theorem converge_same (hm : S.manifest.PlainChoices) (hs : Beside p s) (meets : Meets σ)
    {d : ConfigVersion} (h : ∀ k v, d.fields.get? k = some v → S.manifest.coldOrWarm k = false) :
    (S.converge d meets).run s = (zoom (hot p) (put p) ((daemon S).converge d)).run s := by
  rw [converge_hotOnly hs meets h]
  cases hb : (S.manifest.validate d.fields).2.entries.isEmpty with
  | false => exact rejected_same hm hs h hb
  | true =>
    have hvalid := validate_of_clean hb
    cases he : d.fields.entries.isEmpty with
    | false => exact sent_same hs hvalid he
    | true =>
      have hend := finish_run (S := S) hs d p.engine
      rw [put_self hs] at hend
      have hleft : (S.applyHot d d.fields).run s = (S.finish d).run s := by
        simp only [Supervisor.applyHot, he, if_true]
      rw [hleft, hend, zoom_run, converge_clean hvalid, he, if_pos rfl, pure_bind]
      rw [conclude_run s.store s.appliedVersionId s.appliedVersionId p.engine d APPLYING "" rfl]

/-- Nothing to do for either loop. -/
theorem idle_run (hs : Beside p s) (store : Store) :
    EStateM.Result.ok (ε := PyErr) HEALTHY { s with store := store } =
      .ok HEALTHY (put p ⟨store, s.appliedVersionId, p.engine⟩ s) :=
  congrArg (EStateM.Result.ok HEALTHY) (put_self hs _ _).symm

theorem tick_same (hm : S.manifest.PlainChoices) (hs : Beside p s) (hhot : HotOnly S s)
    (meets : Meets σ) :
    (S.tick meets).run s = (zoom (hot p) (put p) (daemon S).tick).run s := by
  have hup := alive_of_beside hs
  have hread : (Reconciler.onStore (Store.desiredFor (daemon S).replicaId (daemon S).group)).run
      (hot p s) = (zoom (fun _ => s.store) (fun store t => { t with store := store })
        (Store.desiredFor S.replicaId S.group)).run (hot p s) := rfl
  rw [zoom_run]
  rcases Store.desiredFor_reads s.store S.replicaId S.group with ⟨target, hd⟩ | ⟨e, he⟩
  · have hfound : (Supervisor.onStore (Store.desiredFor S.replicaId S.group)).run s =
        .ok target s := by rw [Supervisor.onStore, zoom_run, hd]
    rw [zoom_run, hd] at hread
    have hsame : (Reconciler.onStore (Store.desiredFor (daemon S).replicaId
        (daemon S).group)).run (hot p s) = .ok target (hot p s) := hread
    cases target with
    | none =>
      have happlied : s.appliedVersionId = none := hhot.empty (value?_eq_some_iff.mpr (by
        rw [Store.final_desiredFor, hd]))
      have hleft : (S.tick meets).run s = .ok HEALTHY { s with
          store := s.store.recorded S.replicaId S.group s.appliedVersionId HEALTHY "" } := by
        simp only [Supervisor.tick, Supervisor.idle, EStateM.run_bind, hfound, EStateM.run_get, hup,
          Bool.not_true, Bool.false_eq_true, if_false, Supervisor.record_run, happlied]
        rfl
      have hright : (daemon S).tick.run (hot p s) = .ok HEALTHY
          ⟨s.store.recorded S.replicaId S.group s.appliedVersionId HEALTHY "", s.appliedVersionId,
            p.engine⟩ := by
        simp only [Reconciler.tick, Reconciler.tickOver, EStateM.run_bind, hsame, EStateM.run_get,
          Reconciler.recordOver_run]
        rfl
      rw [hleft, hright]
      exact idle_run hs _
    | some d =>
      by_cases hnew : some d.id = s.appliedVersionId
      · have hexits : Supervisor.Exits s d := ⟨hnew, hup⟩
        have hold : some d.id = (hot p s).appliedVersionId := hnew
        have hleft : (S.tick meets).run s = .ok HEALTHY { s with
            store := s.store.recorded S.replicaId S.group s.appliedVersionId HEALTHY "" } := by
          simp only [Supervisor.tick, EStateM.run_bind, hfound, EStateM.run_get, if_pos hexits,
            Supervisor.record_run, hnew]
          rfl
        have hright : (daemon S).tick.run (hot p s) = .ok HEALTHY
            ⟨s.store.recorded S.replicaId S.group s.appliedVersionId HEALTHY "", s.appliedVersionId,
              p.engine⟩ := by
          simp only [Reconciler.tick, Reconciler.tickOver, EStateM.run_bind, hsame, EStateM.run_get,
            if_pos hold, Reconciler.recordOver_run]
          rfl
        rw [hleft, hright]
        exact idle_run hs _
      · have hexits : ¬Supervisor.Exits s d := fun h => hnew h.1
        have hold : ¬some d.id = (hot p s).appliedVersionId := hnew
        have hend := converge_same hm hs meets (hhot.hot d (Store.target_eq_some.mpr hd))
        rw [zoom_run] at hend
        simp only [Supervisor.tick, Reconciler.tick, Reconciler.tickOver, EStateM.run_bind, hfound,
          hsame, EStateM.run_get, if_neg hexits, if_neg hold]
        exact hend
  · have hfound : (Supervisor.onStore (Store.desiredFor S.replicaId S.group)).run s =
        .error e s := by rw [Supervisor.onStore, zoom_run, he]
    rw [zoom_run, he] at hread
    simp only [Supervisor.tick, Reconciler.tick, Reconciler.tickOver, EStateM.run_bind, hfound, hread]
    exact congrArg (EStateM.Result.error e) (put_self hs _ _).symm

/-! ## Runs -/

def supervised : ReconcilerTruth.Event ι × Meets σ → SupervisorTruth.Event σ ι
  | (.plane op, _) => .plane op
  | (.own i, _) => .own i
  | (.tick, meets) => .tick meets

def verdict (S : Supervisor σ ι) (s : Supervising σ) : SupervisorTruth.Event σ ι → Option String
  | .tick meets => value? (S.tick meets) s
  | _ => none

def daemonVerdict (r : Reconciler σ ι) (s : Reconciling σ) :
    ReconcilerTruth.Event ι → Option String
  | .tick => value? r.tick s
  | _ => none

def TicksHot (S : Supervisor σ ι) (s : Supervising σ) : SupervisorTruth.Event σ ι → Prop
  | .tick _ => HotOnly S s
  | _ => True

theorem beside_put (hs : Beside p s) (t : Reconciling σ) :
    Beside { p with engine := t.engine } (put p t s) := ⟨rfl, hs.plain, hs.fresh⟩

theorem step_same (hm : S.manifest.PlainChoices) (hs : Beside p s)
    (e : ReconcilerTruth.Event ι × Meets σ) (hhot : TicksHot S s (supervised e)) :
    (∃ engine, Beside { p with engine := engine } (SupervisorTruth.step S s (supervised e)) ∧
      hot { p with engine := engine } (SupervisorTruth.step S s (supervised e)) =
        ReconcilerTruth.step (daemon S) (hot p s) e.1) ∧
    verdict S s (supervised e) = daemonVerdict (daemon S) (hot p s) e.1 := by
  obtain ⟨e, meets⟩ := e
  cases e with
  | plane op => exact ⟨⟨p.engine, ⟨hs.served, hs.plain, hs.fresh⟩, rfl⟩, rfl⟩
  | own i =>
    refine ⟨⟨S.adapter.own i p.engine, ⟨?_, hs.plain, hs.fresh⟩, rfl⟩, rfl⟩
    change s.proc.map _ = _
    rw [hs.served]
    rfl
  | tick =>
    have hrun := tick_same hm hs hhot meets
    rw [zoom_run] at hrun
    simp only [supervised, SupervisorTruth.step, ReconcilerTruth.step, verdict, daemonVerdict,
      value?, final, hrun]
    cases (daemon S).tick.run (hot p s) with
    | ok a t => exact ⟨⟨t.engine, beside_put hs t, rfl⟩, rfl⟩
    | error e t => exact ⟨⟨t.engine, beside_put hs t, rfl⟩, rfl⟩

/-- Along a run whose ticks are hot a supervisor keeps its process, answers what the reconciler of
its replica would answer, and leaves the store, the memory and the engine as that would. -/
theorem supervise_is_daemon (S : Supervisor σ ι) (hm : S.manifest.PlainChoices)
    (p : Process σ) (s : Supervising σ) (hs : Beside p s)
    (es : List (ReconcilerTruth.Event ι × Meets σ))
    (hhot : Along (SupervisorTruth.step S) (TicksHot S) s (es.map supervised)) :
    (∃ engine,
      Beside { p with engine := engine } (run (SupervisorTruth.step S) s (es.map supervised)) ∧
      hot { p with engine := engine } (run (SupervisorTruth.step S) s (es.map supervised)) =
        run (ReconcilerTruth.step (daemon S)) (hot p s) (es.map Prod.fst)) ∧
    replies (SupervisorTruth.step S) (verdict S) s (es.map supervised) =
      replies (ReconcilerTruth.step (daemon S)) (daemonVerdict (daemon S)) (hot p s)
        (es.map Prod.fst) := by
  induction es generalizing p s with
  | nil => exact ⟨⟨p.engine, hs, rfl⟩, rfl⟩
  | cons e es ih =>
    obtain ⟨⟨engine, hbeside, hhotter⟩, hverdict⟩ := step_same hm hs e hhot.1
    obtain ⟨hend, hreplies⟩ := ih _ _ hbeside hhot.2
    rw [List.map_cons, List.map_cons, run_cons, run_cons, replies, replies, hverdict, ← hhotter]
    exact ⟨hend, congrArg _ hreplies⟩

instance (S : Supervisor σ ι) (s : Supervising σ) : Decidable (HotOnly S s) :=
  decidable_of_iff ((∀ d ∈ S.target s.store, ∀ e ∈ d.fields.entries,
      S.manifest.coldOrWarm e.1 = false) ∧
    (value? (Store.desiredFor S.replicaId S.group) s.store = some none →
      s.appliedVersionId = none))
    ⟨fun h => ⟨fun d hd => Dict.forall_get?_iff.mpr (h.1 d hd), h.2⟩,
      fun h => ⟨fun d hd => Dict.forall_get?_iff.mp (h.hot d hd), h.empty⟩⟩

instance (S : Supervisor σ ι) (s : Supervising σ) :
    (e : SupervisorTruth.Event σ ι) → Decidable (TicksHot S s e)
  | .tick _ => inferInstanceAs (Decidable (HotOnly S s))
  | .plane _ | .own _ | .crash => isTrue trivial

def launched : Supervising VllmScheduler.Sched where
  store := Store.empty
  proc := some (.serving ⟨1, ∅, SupervisorRefusal.bootEngine⟩)
  coldApplied := some ∅

def twoVersions : List (ReconcilerTruth.Event VllmEngine.Own × Meets VllmScheduler.Sched) :=
  [.tick, ReconcilerTruth.propose [("max_num_seqs", .int 16)], ReconcilerTruth.promote 1, .tick,
    .own (.schedule [true]),
    ReconcilerTruth.propose [("max_num_batched_tokens", .int 4096), ("max_num_seqs", .int 8)],
    ReconcilerTruth.promote 2, .tick].map fun e => (e, SupervisorRefusal.busy)

theorem twoVersions_same :
    replies (SupervisorTruth.step SupervisorRefusal.vllmSupervisor)
        (verdict SupervisorRefusal.vllmSupervisor) launched (twoVersions.map supervised) =
      replies (ReconcilerTruth.step (daemon SupervisorRefusal.vllmSupervisor))
        (daemonVerdict (daemon SupervisorRefusal.vllmSupervisor))
        (hot ⟨1, ∅, SupervisorRefusal.bootEngine⟩ launched) (twoVersions.map Prod.fst) :=
  (supervise_is_daemon SupervisorRefusal.vllmSupervisor vllm_plainChoices
    ⟨1, ∅, SupervisorRefusal.bootEngine⟩ launched ⟨rfl, rfl, rfl⟩ twoVersions
    (by decide +kernel)).2

end Trimtab.SupervisedDaemon
