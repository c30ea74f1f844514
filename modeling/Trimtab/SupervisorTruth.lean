import Trimtab.ControlPlane
import Trimtab.MemoLoop
import Trimtab.SupervisorRefusal

set_option autoImplicit false

/-!
# What a supervisor's verdict says of its engine

Cold and hot fields go into force one after the other, and either part of a tick may fail
after the other is done. The early exit compares version ids.
-/
namespace Trimtab.SupervisorTruth
open Effects Runs StoreHistory Supervisor SupervisorRefusal

variable {σ ι : Type}

/-! ## The configuration of the process -/

/-- An engine with this configuration runs with exactly these cold and warm fields. -/
def ConfiguredAs (config cold : Fields) : Prop :=
  ∀ name, (config.get? name).map Json.canon = ((engineNames cold).get? name).map Json.canon

def fieldOf (name : String) : Option String :=
  if name = "max_total_tokens" then some "max_total_num_tokens"
  else if name = "max_total_num_tokens" then none
  else some name

theorem engineNames_get? {fields : Fields} (h : fields.get? "max_total_tokens" = none)
    (name : String) : (engineNames fields).get? name = (fieldOf name).bind fields.get? := by
  apply Dict.get?_rename
  intro k hk j
  have hne : k ≠ "max_total_tokens" := by
    rintro rfl
    exact Dict.get?_eq_none_iff.mp h hk
  by_cases hkt : k = "max_total_num_tokens"
  · subst hkt
    by_cases hj : j = "max_total_tokens"
    · simp [engineName, fieldOf, hj]
    · by_cases hjt : j = "max_total_num_tokens" <;>
        simp [engineName, fieldOf, hj, hjt, Ne.symm hj, eq_comm]
  · by_cases hj : j = "max_total_tokens"
    · simp [engineName, fieldOf, hj, hkt, hne, Ne.symm hkt]
    · by_cases hjt : j = "max_total_num_tokens"
      · simp [engineName, fieldOf, hjt, hkt]
      · simp [engineName, fieldOf, hj, hjt, hkt, eq_comm]

theorem configuredAs_refl (cold : Fields) : ConfiguredAs (engineNames cold) cold := fun _ => rfl

theorem canon_get?_of_eqv {d e : Fields} (h : d.eqv Json.same e = true) (k : String) :
    (d.get? k).map Json.canon = (e.get? k).map Json.canon := by
  have hk := Dict.eqv_iff.mp h k
  generalize d.get? k = a, e.get? k = b at hk
  cases hk with
  | none => rfl
  | some hs => exact congrArg some (Json.same_iff.mp hs)

theorem configuredAs_of_eqv {config old cold : Fields} (hplain : cold.get? "max_total_tokens" = none)
    (h : cold.eqv Json.same old = true) (hc : ConfiguredAs config old) : ConfiguredAs config cold := by
  have hcanon := canon_get?_of_eqv h
  have hold : old.get? "max_total_tokens" = none := by
    have hk := hcanon "max_total_tokens"
    rw [hplain] at hk
    exact Option.map_eq_none_iff.mp hk.symm
  intro name
  rw [hc name, engineNames_get? hplain, engineNames_get? hold]
  cases fieldOf name with
  | none => rfl
  | some k => exact (hcanon k).symm

/-- Some field is null and new, so that `changed` passes over it. -/
def newNull (s : Supervising σ) (cold : Fields) : Bool :=
  cold.entries.any fun p => decide (p.2 = .null) && !s.cold.contains p.1

theorem canon_null {v : Json} (h : Json.canon .null = Json.canon v) : v = .null := by
  cases v with
  | null => rfl
  | _ => simp [Json.canon] at h

theorem unchanged_get? {s : Supervising σ} {cold : Fields} (hnull : newNull s cold = false)
    {k : String} {v : Json} (hv : cold.get? k = some v)
    (heq : Json.pyEq ((s.cold.get? k).getD .null) v = true) :
    (s.cold.get? k).map Json.canon = some (Json.canon v) := by
  have hcanon := Json.same_iff.mp (Json.same_of_pyEq heq)
  cases hold : s.cold.get? k with
  | some w =>
    rw [hold] at hcanon
    exact congrArg some hcanon
  | none =>
    rw [hold] at hcanon
    have hp := List.any_eq_false.mp hnull (k, v) (Dict.get?_eq_some_iff.mp hv)
    simp [canon_null hcanon, Dict.contains, hold] at hp

/-- Two fields go by one name in the engine. -/
def ambiguous (cold : Fields) : Bool :=
  cold.contains "max_total_tokens" && cold.contains "max_total_num_tokens"

def NamedBy (g : String → Option String) (fields : Fields) : Prop :=
  ∀ name, (engineNames fields).get? name = (g name).bind fields.get?

theorem engineNames_get?_of_unnamed {fields : Fields}
    (h : fields.get? "max_total_num_tokens" = none) (name : String) :
    (engineNames fields).get? name = fields.get? name := by
  have hname : ∀ k ∈ fields.keys, ∀ j, engineName k = j ↔ some j = some k := by
    intro k hk j
    have hne : k ≠ "max_total_num_tokens" := by
      rintro rfl
      exact Dict.get?_eq_none_iff.mp h hk
    rw [engineName, if_neg hne, Option.some.injEq, eq_comm]
  exact Dict.get?_rename hname name

/-- One naming serves a set of fields that is not ambiguous and all smaller ones. -/
theorem exists_namedBy {cold : Fields} (h : ambiguous cold = false) :
    ∃ g, ∀ fields : Fields, (∀ k, cold.get? k = none → fields.get? k = none) → NamedBy g fields := by
  rw [ambiguous, Bool.and_eq_false_iff] at h
  rcases h with h | h
  · rw [Dict.contains, Option.isSome_eq_false_iff, Option.isNone_iff_eq_none] at h
    exact ⟨fieldOf, fun fields hsub => engineNames_get? (hsub _ h)⟩
  · rw [Dict.contains, Option.isSome_eq_false_iff, Option.isNone_iff_eq_none] at h
    exact ⟨some, fun fields hsub => engineNames_get?_of_unnamed (hsub _ h)⟩

theorem ambiguous_of_plain {cold : Fields} (h : cold.get? "max_total_tokens" = none) :
    ambiguous cold = false := by
  rw [ambiguous, Dict.contains, h]
  rfl

/-- The configuration that an accepted reinit with the changed fields leaves. -/
theorem configuredAs_update {s : Supervising σ} {config cold : Fields}
    (hone : ambiguous cold = false) (hkeys : s.cold.keys.all cold.contains = true)
    (hnull : newNull s cold = false) (hc : ConfiguredAs config s.cold) :
    ConfiguredAs (config.update (engineNames (changed s cold))) cold := by
  obtain ⟨g, hg⟩ := exists_namedBy hone
  have hsub : ∀ k, cold.get? k = none → s.cold.get? k = none := by
    intro k hk
    rw [Dict.get?_eq_none_iff]
    intro hmem
    have hin := List.all_eq_true.mp hkeys k hmem
    rw [Dict.contains, hk] at hin
    cases hin
  have hchanged : ∀ k, (changed s cold).get? k = (cold.get? k).filter fun v =>
      !Json.pyEq ((s.cold.get? k).getD .null) v := Dict.get?_filter _ _
  have hless : ∀ k, cold.get? k = none → (changed s cold).get? k = none := by
    intro k hk
    rw [hchanged, hk]
    rfl
  intro name
  rw [Dict.get?_update, hg _ hless]
  have hbase := hc name
  rw [hg _ hsub] at hbase
  rw [hg _ fun _ hk => hk]
  cases hfield : g name with
  | none =>
    rw [hfield] at hbase
    exact hbase
  | some k =>
    rw [hfield, Option.bind_some] at hbase
    rw [Option.bind_some, Option.bind_some, hchanged]
    cases hv : cold.get? k with
    | none =>
      rw [hsub k hv] at hbase
      exact hbase
    | some v =>
      cases heq : Json.pyEq ((s.cold.get? k).getD .null) v with
      | false => simp [Option.filter, heq]
      | true =>
        rw [unchanged_get? hnull hv heq] at hbase
        have hskip : (some v).filter (fun v => !Json.pyEq ((s.cold.get? k).getD .null) v) = none := by
          simp [Option.filter, heq]
        rw [hskip, Option.none_or, hbase, Option.map_some]

/-! ## The system -/

inductive Event (σ ι : Type) where
  | plane (op : PlaneOp)
  | own (step : ι)
  | crash
  | tick (meets : Meets σ)

def ownStep (S : Supervisor σ ι) (i : ι) (s : Supervising σ) : Supervising σ :=
  { s with proc := s.proc.map fun
      | .serving p => .serving { p with engine := S.adapter.own i p.engine }
      | .exited => .exited }

def step (S : Supervisor σ ι) (s : Supervising σ) : Event σ ι → Supervising σ
  | .plane op => { s with store := op.apply s.store }
  | .own i => ownStep S i s
  | .crash => s.crash
  | .tick meets => final (S.tick meets) s

def Started (s : Supervising σ) : Prop :=
  s.proc = none ∧ s.coldApplied = none ∧ s.appliedVersionId = none

/-- A tick towards `d` that does not get there has reshaped the engine, or has had another value
taken for a field of the version that the supervisor remembers. -/
def disturbs (S : Supervisor σ ι) (s : Supervising σ) (d : ConfigVersion) : Bool :=
  needsReshape s (S.split d.fields).2 ||
    match s.serving?, S.request d, s.appliedVersionId.bind s.store.find with
    | some p, some changes, some old => S.adapter.overwrites p.engine changes old.fields
    | _, _, _ => false

/-- Whether the remembered version may no longer be in force on a running engine. -/
def staleAfter (S : Supervisor σ ι) (s : Supervising σ) (stale : Bool) : Event σ ι → Bool
  | .tick meets =>
    match S.target s.store with
    | none => stale || !s.alive
    | some d =>
      if Exits s d then stale
      else if S.reaches s d meets then false
      else stale || disturbs S s d
  | _ => stale

/-- No tick takes the early exit while what it remembers may not be in force. -/
def Fresh (S : Supervisor σ ι) (p : Supervising σ × Bool) : Event σ ι → Prop
  | .tick _ => ∀ d, S.target p.1.store = some d → Exits p.1 d → p.2 = false
  | _ => True

/-- No accepted reinit goes with a field that is null and new. -/
def NoNewNull (S : Supervisor σ ι) (s : Supervising σ) : Event σ ι → Prop
  | .tick meets => ∀ d, S.target s.store = some d → ¬Exits s d →
      needsReshape s (S.split d.fields).2 = true → S.warmable s (S.split d.fields).2 = true →
      meets.warm.ok = true → newNull s (S.split d.fields).2 = false
  | _ => True

/-- An accepted reinit goes with fields of distinct names, none of them null and new. -/
def Overlaid (S : Supervisor σ ι) (s : Supervising σ) : Event σ ι → Prop
  | .tick meets => ∀ d, S.target s.store = some d → ¬Exits s d →
      needsReshape s (S.split d.fields).2 = true → S.warmable s (S.split d.fields).2 = true →
      meets.warm.ok = true →
      ambiguous (S.split d.fields).2 = false ∧ newNull s (S.split d.fields).2 = false
  | _ => True

abbrev ghostStep (S : Supervisor σ ι) :
    Supervising σ × Bool → Event σ ι → Supervising σ × Bool := withGhost (step S) (staleAfter S)

/-! ## The record of the cold fields -/

/-- A running engine has the cold fields that the supervisor has noted. -/
def Recorded (s : Supervising σ) : Prop :=
  ∀ p, s.proc = some (.serving p) → ConfiguredAs p.config s.cold

theorem recorded_of_down {s : Supervising σ} (h : Down s.proc) : Recorded s :=
  fun p hp => absurd hp (h p)

theorem cold_plain {S : Supervisor σ ι} (hm : S.manifest.coldOrWarm "max_total_tokens" = false)
    (fields : Fields) : (S.split fields).2.get? "max_total_tokens" = none := by
  rw [Option.eq_none_iff_forall_ne_some]
  intro v hv
  have hcw := (S.split_cold.mp hv).2
  rw [hm] at hcw
  cases hcw

theorem recorded_reshaped {S : Supervisor σ ι} {s t : Supervising σ} {cold : Fields}
    {meets : Meets σ} {result : Option Unit}
    (hwarm : needsReshape s cold = true → S.warmable s cold = true → meets.warm.ok = true →
      ambiguous cold = false ∧ newNull s cold = false)
    (hs : Recorded s) (h : Reshaped S s cold meets result t) : Recorded t := by
  cases h with
  | same asis => exact hs
  | warmed store reports p served needs able accepted =>
    obtain ⟨hone, hnull⟩ := hwarm needs able accepted
    have hkeys : s.cold.keys.all cold.contains = true := by
      simp only [warmable, Bool.and_eq_true] at able
      exact able.1.2
    intro q hq
    cases hq
    exact configuredAs_update hone hkeys hnull (hs p served)
  | relaunched store reports pid engine seconds needs booted cool =>
    intro q hq
    cases hq
    exact configuredAs_refl cold
  | raised store reports proc down needs failed cool => exact recorded_of_down down

/-- The engine that the cold part leaves is configured as the version wants it. -/
theorem configured_of_reshaped {S : Supervisor σ ι} {s t : Supervising σ} {cold : Fields}
    {meets : Meets σ} (hplain : cold.get? "max_total_tokens" = none)
    (h : Reshaped S s cold meets (some ()) t) (ht : Recorded t) {p : Process σ}
    (hp : t.proc = some (.serving p)) : ConfiguredAs p.config cold := by
  have hc := ht p hp
  cases h with
  | same asis =>
    rw [needsReshape, Bool.or_eq_false_iff, Bool.not_eq_false'] at asis
    exact configuredAs_of_eqv hplain (by simpa using asis.2) hc
  | warmed store reports p' served needs able accepted => exact hc
  | relaunched store reports pid engine seconds needs booted cool => exact hc

theorem recorded_hotApplied {S : Supervisor σ ι} {s t : Supervising σ} {p : Process σ}
    {d : ConfigVersion} {result : String} (hp : s.proc = some (.serving p)) (hs : Recorded s)
    (h : HotApplied S s p d result t) : Recorded t := by
  have hc := hs p hp
  cases h with
  | rejected store reports unsent short => exact hs
  | refused store reports changes sent short =>
    intro q hq
    cases hq
    exact hc
  | done store reports engine' taken sent holds =>
    intro q hq
    cases hq
    exact hc

theorem recorded_overlaid {S : Supervisor σ ι} (s : Supervising σ) (e : Event σ ι)
    (hs : Recorded s) (hover : Overlaid S s e) : Recorded (step S s e) := by
  cases e with
  | plane op => exact hs
  | own i =>
    intro q hq
    change (s.proc.map _) = _ at hq
    cases hproc : s.proc with
    | none => rw [hproc] at hq; cases hq
    | some handle =>
      rw [hproc] at hq
      cases handle with
      | exited => cases hq
      | serving p =>
        cases hq
        exact hs p hproc
  | crash =>
    apply recorded_of_down
    intro p hp
    change (s.proc.map _) = _ at hp
    cases hproc : s.proc <;> rw [hproc] at hp <;> cases hp
  | tick meets =>
    have ht := S.tick_ticked s meets
    change Recorded (final (S.tick meets) s)
    generalize value? (S.tick meets) s = result at ht
    generalize final (S.tick meets) s = t at ht
    cases ht with
    | unread target => exact hs
    | noop store reports up exit => exact hs
    | revived store reports target dead pid engine =>
      intro q hq
      cases hq
      exact configuredAs_refl s.cold
    | stuck target dead proc down => exact recorded_of_down down
    | raised d target new t reshaped =>
      exact recorded_reshaped (hover d target new) hs reshaped
    | converged d target new u reshaped p served result t applied =>
      exact recorded_hotApplied served (recorded_reshaped (hover d target new) hs reshaped) applied

theorem overlaid_iff {S : Supervisor σ ι} (hm : S.manifest.coldOrWarm "max_total_tokens" = false)
    (s : Supervising σ) (e : Event σ ι) : Overlaid S s e ↔ NoNewNull S s e := by
  cases e with
  | plane op => exact Iff.rfl
  | own i => exact Iff.rfl
  | crash => exact Iff.rfl
  | tick meets =>
    exact ⟨fun h d ht hn hneeds hw hok => (h d ht hn hneeds hw hok).2,
      fun h d ht hn hneeds hw hok =>
        ⟨ambiguous_of_plain (cold_plain hm d.fields), h d ht hn hneeds hw hok⟩⟩

theorem recorded_step {S : Supervisor σ ι} (hm : S.manifest.coldOrWarm "max_total_tokens" = false)
    (s : Supervising σ) (e : Event σ ι) (hs : Recorded s) (hnull : NoNewNull S s e) :
    Recorded (step S s e) := recorded_overlaid s e hs ((overlaid_iff hm s e).mpr hnull)

/-! ## The supervisor as a loop with a memory -/

/-- The process runs with exactly the cold and warm fields, and has the hot ones in force. -/
def Runs (S : Supervisor σ ι) (p : Process σ) (fields : Fields) : Prop :=
  ConfiguredAs p.config (S.split fields).2 ∧ S.adapter.InForce p.engine fields

def InForce (S : Supervisor σ ι) (world : Store × Option (Popen σ)) (id : Int) : Prop :=
  ∃ d, world.1.find id = some d ∧ ∀ p, world.2 = some (.serving p) → Runs S p d.fields

def memo (p : Supervising σ × Bool) : MemoLoop (Store × Option (Popen σ)) Int :=
  ⟨(p.1.store, p.1.proc), p.1.appliedVersionId, p.2⟩

theorem request_admits (S : Supervisor σ ι) {d : ConfigVersion} {changes : Fields}
    (h : S.request d = some changes) : S.manifest.Admits changes := by
  unfold Supervisor.request at h
  dsimp only at h
  split_ifs at h
  cases h
  exact validate_admits S.manifest (S.split d.fields).1

theorem inForce_of_reports {S : Supervisor σ ι} {s t : Store} {proc : Option (Popen σ)} {v : Int}
    (h : s.Reports t) (hv : InForce S (s, proc) v) : InForce S (t, proc) v := by
  obtain ⟨d, hd, hruns⟩ := hv
  exact ⟨d, (Store.find_of_reports h v).trans hd, hruns⟩

/-- The tick that gets to its target leaves a process that runs it. -/
theorem runs_of_done {S : Supervisor σ ι} (hm : S.manifest.coldOrWarm "max_total_tokens" = false)
    {s t : Supervising σ} {meets : Meets σ} {d : ConfigVersion} (hs : Recorded s)
    (hnull : needsReshape s (S.split d.fields).2 = true →
      S.warmable s (S.split d.fields).2 = true → meets.warm.ok = true →
      newNull s (S.split d.fields).2 = false)
    (h : Reshaped S s (S.split d.fields).2 meets (some ()) t) {p : Process σ}
    (hp : t.proc = some (.serving p)) {engine : σ} (he : S.adapter.InForce engine d.fields) :
    Runs S { p with engine := engine } d.fields := by
  have hplain := cold_plain hm d.fields
  have ht : Recorded t := recorded_reshaped
    (fun hneeds hw hok => ⟨ambiguous_of_plain hplain, hnull hneeds hw hok⟩) hs h
  have hc : ConfiguredAs p.config (S.split d.fields).2 := configured_of_reshaped hplain h ht hp
  exact ⟨hc, he⟩

theorem store_of_reshaped {S : Supervisor σ ι} {s t : Supervising σ} {cold : Fields}
    {meets : Meets σ} {result : Option Unit} (h : Reshaped S s cold meets result t) :
    s.store.Reports t.store ∧ t.appliedVersionId = s.appliedVersionId := by
  cases h with
  | same asis => exact ⟨Store.reports_refl s.store, rfl⟩
  | warmed store reports p served needs able accepted => exact ⟨reports, rfl⟩
  | relaunched store reports pid engine seconds needs booted cool => exact ⟨reports, rfl⟩
  | raised store reports proc down needs failed cool => exact ⟨reports, rfl⟩

theorem settled_of_not_disturbs {S : Supervisor σ ι} {s : Supervising σ} {d : ConfigVersion}
    (h : disturbs S s d = false) : needsReshape s (S.split d.fields).2 = false := by
  rw [disturbs, Bool.or_eq_false_iff] at h
  exact h.1

/-- An unfinished hot part that disturbs nothing keeps what was in force. -/
theorem inForce_of_not_disturbs {S : Supervisor σ ι} {s : Supervising σ} {d : ConfigVersion}
    {p : Process σ} {changes : Fields} {v : Int} (hp : s.proc = some (.serving p))
    (hsent : S.request d = some changes) (hv : s.appliedVersionId = some v)
    (hkeep : disturbs S s d = false) (h : InForce S (s.store, s.proc) v) :
    InForce S (s.store, some (.serving { p with
      engine := final (S.adapter.setHot changes) p.engine })) v := by
  obtain ⟨old, hold, hruns⟩ := h
  refine ⟨old, hold, fun q hq => ?_⟩
  cases hq
  obtain ⟨hconfig, hlive⟩ := hruns p hp
  refine ⟨hconfig, S.adapter.inForce_of_not_overwrites (request_admits S hsent) ?_ hlive⟩
  rw [disturbs, Bool.or_eq_false_iff] at hkeep
  have hserving : s.serving? = some p := by rw [Supervising.serving?, hp]
  have hfind : s.store.find v = some old := hold
  rw [hserving, hsent, hv, Option.bind_some, hfind] at hkeep
  exact hkeep.2

theorem move_tick {S : Supervisor σ ι} (hm : S.manifest.coldOrWarm "max_total_tokens" = false)
    (s : Supervising σ) (stale : Bool) (meets : Meets σ) (hs : Recorded s)
    (hnull : NoNewNull S s (.tick meets)) :
    MemoLoop.Move (InForce S) (memo (s, stale)) (memo (ghostStep S (s, stale) (.tick meets))) := by
  have ht := S.tick_ticked s meets
  change MemoLoop.Move (InForce S) (memo (s, stale))
    (memo (final (S.tick meets) s, staleAfter S s stale (.tick meets)))
  generalize value? (S.tick meets) s = result at ht
  generalize final (S.tick meets) s = t at ht
  have hshort : ∀ d, S.target s.store = some d → ¬Exits s d → S.reaches s d meets = false →
      staleAfter S s stale (.tick meets) = (stale || disturbs S s d) := by
    intro d target new hreaches
    simp only [staleAfter, target, new, if_false, hreaches, Bool.false_eq_true]
  cases ht with
  | unread target =>
    have hstale : staleAfter S s stale (.tick meets) = (stale || !s.alive) := by
      simp only [staleAfter, target]
    rw [hstale]
    exact .keeps _ _ fun h => ⟨(Bool.or_eq_false_iff.mp h).1, fun _ _ hv => hv⟩
  | noop store reports up exit =>
    have hstale : staleAfter S s stale (.tick meets) = stale := by
      cases htarget : S.target s.store with
      | none => simp [staleAfter, htarget, up]
      | some d => simp only [staleAfter, htarget, exit d htarget, if_true]
    rw [hstale]
    exact .keeps (store, s.proc) stale fun h => ⟨h, fun _ _ hv => inForce_of_reports reports hv⟩
  | revived store reports target dead pid engine =>
    have hstale : staleAfter S s stale (.tick meets) = true := by
      simp [staleAfter, target, dead]
    rw [hstale]
    exact .keeps _ true fun h => by cases h
  | stuck target dead proc down =>
    have hstale : staleAfter S s stale (.tick meets) = true := by
      simp [staleAfter, target, dead]
    rw [hstale]
    exact .keeps _ true fun h => by cases h
  | raised d target new t reshaped =>
    rw [hshort d target new (by rw [reaches, S.finds_of_raised reshaped]; rfl)]
    obtain ⟨-, happlied⟩ := store_of_reshaped reshaped
    have hneeds : disturbs S s d = true := by
      cases reshaped with
      | raised store reports proc down needs failed cool => rw [disturbs, needs, Bool.true_or]
    have hmemo : memo (t, true) = ⟨(t.store, t.proc), s.appliedVersionId, true⟩ := by
      rw [memo, happlied]
    rw [hneeds, Bool.or_true, hmemo]
    exact .keeps _ true fun h => by cases h
  | converged d target new u reshaped p served result t applied =>
    obtain ⟨hreports, happlied⟩ := store_of_reshaped reshaped
    have hreaches : S.reaches s d meets = S.takesHot p.engine d := by
      rw [reaches, S.finds_of_reshaped reshaped served, Option.any_some]
    cases applied with
    | rejected store reports unsent short =>
      rw [hshort d target new (hreaches.trans short)]
      change MemoLoop.Move (InForce S) (memo (s, stale)) ⟨(store, u.proc), u.appliedVersionId, _⟩
      rw [happlied]
      refine .keeps (store, u.proc) _ fun h => ?_
      rw [Bool.or_eq_false_iff] at h
      refine ⟨h.1, fun v _ hv => ?_⟩
      obtain ⟨-, rfl⟩ := S.reshaped_settled reshaped (settled_of_not_disturbs h.2)
      exact inForce_of_reports reports hv
    | refused store reports changes sent short =>
      rw [hshort d target new (hreaches.trans short)]
      change MemoLoop.Move (InForce S) (memo (s, stale)) ⟨(store, _), u.appliedVersionId, _⟩
      rw [happlied]
      refine .keeps (store, _) _ fun h => ?_
      rw [Bool.or_eq_false_iff] at h
      refine ⟨h.1, fun v hmemo hv => ?_⟩
      obtain ⟨-, rfl⟩ := S.reshaped_settled reshaped (settled_of_not_disturbs h.2)
      exact inForce_of_reports reports (inForce_of_not_disturbs served sent hmemo h.2 hv)
    | done store reports engine taken sent holds =>
      have hstale : staleAfter S s stale (.tick meets) = false := by
        simp only [staleAfter, target, new, if_false, hreaches.trans taken, if_true]
      rw [hstale]
      refine .reaches (store, _) d.id ⟨d, ?_, fun q hq => ?_⟩
      · exact (Store.find_of_reports (Store.reports_trans hreports reports) d.id).trans
          (Store.find_target target)
      · cases hq
        exact runs_of_done hm hs (hnull d target new) reshaped served holds

/-- A step of the system is a move of the loop. -/
theorem move_supervised {S : Supervisor σ ι} (hm : S.manifest.coldOrWarm "max_total_tokens" = false)
    (p : Supervising σ × Bool) (e : Event σ ι) (hs : Recorded p.1) (hnull : NoNewNull S p.1 e) :
    MemoLoop.Move (InForce S) (memo p) (memo (ghostStep S p e)) := by
  obtain ⟨s, stale⟩ := p
  cases e with
  | plane op =>
    refine .keeps (op.apply s.store, s.proc) stale fun h => ⟨h, fun v _ hv => ?_⟩
    obtain ⟨d, hd, hruns⟩ := hv
    exact ⟨d, find_of_extends (op.apply_extends s.store) hd, hruns⟩
  | own i =>
    refine .keeps (s.store, (ownStep S i s).proc) stale fun h => ⟨h, fun v _ hv => ?_⟩
    obtain ⟨d, hd, hruns⟩ := hv
    refine ⟨d, hd, fun q hq => ?_⟩
    change s.proc.map _ = _ at hq
    obtain ⟨handle, hproc, hq⟩ := Option.map_eq_some_iff.mp hq
    cases handle with
    | exited => cases hq
    | serving p =>
      cases hq
      obtain ⟨hconfig, hlive⟩ := hruns p hproc
      refine ⟨hconfig, fun k w hk hcw => ?_⟩
      rw [S.adapter.live_own]
      exact hlive k w hk hcw
  | crash =>
    refine .keeps (s.store, s.crash.proc) stale fun h => ⟨h, fun v _ hv => ?_⟩
    obtain ⟨d, hd, -⟩ := hv
    refine ⟨d, hd, fun q hq => ?_⟩
    change s.proc.map _ = _ at hq
    obtain ⟨handle, -, hq⟩ := Option.map_eq_some_iff.mp hq
    cases hq
  | tick meets => exact move_tick hm s stale meets hs hnull

theorem truthful_run {S : Supervisor σ ι} (hm : S.manifest.coldOrWarm "max_total_tokens" = false)
    {s : Supervising σ} (hs : Started s) {es : List (Event σ ι)}
    (hnull : Along (step S) (NoNewNull S) s es) :
    Recorded (run (step S) s es) ∧
      MemoLoop.Truthful (InForce S) (memo (run (ghostStep S) (s, false) es)) := by
  have hend : Recorded (run (ghostStep S) (s, false) es).1 ∧
      MemoLoop.Truthful (InForce S) (memo (run (ghostStep S) (s, false) es)) := by
    refine run_invariant_along (I := fun p => Recorded p.1 ∧ MemoLoop.Truthful (InForce S) (memo p))
      (fun p e h hn => ?_) ((along_withGhost (p := (s, false))).mpr hnull) ⟨recorded_of_down ?_, ?_⟩
    · exact ⟨recorded_step hm p.1 e h.1 hn,
        MemoLoop.truthful_move (move_supervised hm p e h.1 hn) h.2⟩
    · rw [hs.1]
      exact down_none
    · rw [memo, hs.2.2]
      exact MemoLoop.truthful_fresh _ _
  rwa [run_withGhost_fst] at hend

/-! ## Healthy is truthful -/

/-- If a tick in `s` says healthy, a process serves and runs the fields of the target. -/
def HealthyTruthful (S : Supervisor σ ι) (s : Supervising σ) (meets : Meets σ) : Prop :=
  ∀ d, S.target s.store = some d → value? (S.tick meets) s = some HEALTHY →
    ∃ p, (final (S.tick meets) s).proc = some (.serving p) ∧ Runs S p d.fields

theorem truthful_tick {S : Supervisor σ ι} (hm : S.manifest.coldOrWarm "max_total_tokens" = false)
    {s : Supervising σ} {stale : Bool} {meets : Meets σ} (hs : Recorded s)
    (hmemo : MemoLoop.Truthful (InForce S) (memo (s, stale)))
    (hnull : NoNewNull S s (.tick meets)) (hf : Fresh S (s, stale) (.tick meets)) :
    HealthyTruthful S s meets := by
  intro d htarget hresult
  have ht := S.tick_ticked s meets
  rw [hresult] at ht
  generalize final (S.tick meets) s = t at ht ⊢
  generalize hverdict : some HEALTHY = verdict at ht
  cases ht with
  | unread target => cases hverdict
  | noop store reports up exit =>
    have hexit := exit d htarget
    obtain ⟨p, hp⟩ := serving_of_alive up
    obtain ⟨d', hd', hruns⟩ := hmemo (hf d htarget hexit) d.id hexit.1.symm
    have hsame : d' = d := Option.some.inj (hd'.symm.trans (Store.find_target htarget))
    exact ⟨p, hp, hsame ▸ hruns p hp⟩
  | revived store reports target dead pid engine => rw [target] at htarget; cases htarget
  | stuck target dead proc down => cases hverdict
  | raised d' target new t reshaped => cases hverdict
  | converged d' target new u reshaped p served result t applied =>
    rw [htarget] at target
    cases target
    cases applied with
    | rejected store reports unsent short => exact absurd (Option.some.inj hverdict) (by decide)
    | refused store reports changes sent short => exact absurd (Option.some.inj hverdict) (by decide)
    | done store reports engine taken sent holds =>
      exact ⟨_, rfl, runs_of_done hm hs (hnull d htarget new) reshaped served holds⟩

/-- Every healthy verdict of a run is truthful, when no reinit passes over a null and no verdict
rests on what an unfinished tick has disturbed. -/
theorem supervised_truthful (S : Supervisor σ ι)
    (hm : S.manifest.coldOrWarm "max_total_tokens" = false) (s : Supervising σ) (hs : Started s)
    (es : List (Event σ ι)) (hnull : Along (step S) (NoNewNull S) s es)
    (hf : Along (ghostStep S) (Fresh S) (s, false) es) :
    Along (step S) (fun s e => ∀ meets, e = .tick meets → HealthyTruthful S s meets) s es := by
  rw [along_iff] at hnull hf ⊢
  rintro before e after rfl meets rfl
  have hbefore : Along (step S) (NoNewNull S) s before :=
    (along_append.mp (along_iff.mpr hnull)).1
  have htruth := truthful_run hm hs hbefore
  have hfst : (run (withGhost (step S) (staleAfter S)) (s, false) before).1 =
      run (step S) s before := run_withGhost_fst _ before
  have hfresh := hf before (.tick meets) after rfl
  change Fresh S (run (withGhost (step S) (staleAfter S)) (s, false) before) _ at hfresh
  generalize run (withGhost (step S) (staleAfter S)) (s, false) before = p at hfst hfresh htruth
  obtain ⟨s', stale⟩ := p
  cases hfst
  exact truthful_tick hm htruth.1 htruth.2 (hnull before (.tick meets) after rfl) hfresh

instance (S : Supervisor σ ι) (p : Supervising σ × Bool) :
    (e : Event σ ι) → Decidable (Fresh S p e)
  | .tick _ => decidable_of_iff
      (∀ d ∈ S.target p.1.store, Exits p.1 d → p.2 = false) Iff.rfl
  | .plane _ => isTrue trivial
  | .own _ => isTrue trivial
  | .crash => isTrue trivial

instance (S : Supervisor σ ι) (s : Supervising σ) : (e : Event σ ι) → Decidable (NoNewNull S s e)
  | .tick meets => decidable_of_iff
      (∀ d ∈ S.target s.store, ¬Exits s d → needsReshape s (S.split d.fields).2 = true →
        S.warmable s (S.split d.fields).2 = true → meets.warm.ok = true →
        newNull s (S.split d.fields).2 = false) Iff.rfl
  | .plane _ => isTrue trivial
  | .own _ => isTrue trivial
  | .crash => isTrue trivial

abbrev VllmEvent := Event VllmScheduler.Sched VllmEngine.Own

def propose (fields : List (String × Json)) : VllmEvent :=
  .plane (.client (.propose "g" (Dict.ofList fields) "t" ""))

def promote (id : Int) : VllmEvent := .plane (.client (.promote "g" id))

def rollback (id : Int) : VllmEvent := .plane (.client (.rollback "g" id))

def willing : Meets VllmScheduler.Sched := ⟨⟨true, ∅, bootEngine, 1⟩, .healthy 1 bootEngine 30⟩

def unstarted : Supervising VllmScheduler.Sched := { store := Store.empty }

theorem supervised_truthful_reinit : Along (step vllmSupervisor)
    (fun s e => ∀ meets, e = .tick meets → HealthyTruthful vllmSupervisor s meets) unstarted
    [propose [("max_model_len", .int 4096), ("max_num_seqs", .int 16)], promote 1, .tick willing,
      propose [("max_model_len", .int 4096), ("gpu_memory_utilization", .float (.fin (4 / 5)))],
      promote 2, .tick willing, .tick willing, .crash, rollback 1, .tick willing] :=
  supervised_truthful vllmSupervisor (by decide +kernel) unstarted ⟨rfl, rfl, rfl⟩ _
    (by decide +kernel) (by decide +kernel)

/-- The second version relaunches the engine, which then refuses its cap. -/
def halfApplied : List VllmEvent :=
  [propose [("max_num_seqs", .int 16)], promote 1, .tick willing,
    propose [("max_model_len", .int 4096), ("max_num_seqs", .int 64)], promote 2, .tick willing,
    rollback 1]

theorem healthy_after_half_applied :
    ¬∀ (s : Supervising VllmScheduler.Sched) (es : List VllmEvent), Started s →
      Along (step vllmSupervisor)
        (fun s e => ∀ meets, e = .tick meets → HealthyTruthful vllmSupervisor s meets) s es := by
  intro h
  have htick := along_iff.mp (h unstarted (halfApplied ++ [.tick willing]) ⟨rfl, rfl, rfl⟩)
    halfApplied (.tick willing) [] rfl willing rfl
  have htarget : vllmSupervisor.target (run (step vllmSupervisor) unstarted halfApplied).store =
      some (firstVersion [("max_num_seqs", .int 16)]) := by decide +kernel
  have hhealthy : value? (vllmSupervisor.tick willing)
      (run (step vllmSupervisor) unstarted halfApplied) = some HEALTHY := by decide +kernel
  obtain ⟨p, hp, hconfig, -⟩ := htick _ htarget hhealthy
  have hlive : (final (vllmSupervisor.tick willing)
      (run (step vllmSupervisor) unstarted halfApplied)).serving?.map (·.config.get? "max_model_len") =
      some (some (.int 4096)) := by decide +kernel
  rw [Supervising.serving?, hp] at hlive
  have hget : p.config.get? "max_model_len" = some (.int 4096) := Option.some.inj hlive
  have hnone := hconfig "max_model_len"
  rw [hget] at hnone
  exact absurd hnone (by decide +kernel)

end Trimtab.SupervisorTruth
