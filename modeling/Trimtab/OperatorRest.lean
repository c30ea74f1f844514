import Trimtab.CanaryOverrides
import Trimtab.OperatorFleet

set_option autoImplicit false

/-! When the operator comes to rest. -/
namespace Trimtab.Fleet
open PyText Effects Checks StoreHistory

/-! ## The new status, as it is computed -/

section Survey

variable (op : FleetOperator) (store : Store)

def rowOf (id : Json) : Except SqlStore.Fault CanaryRow := do
  match (← op.rowId id).bind store.canaryTable.get? with
  | some row => .ok row
  | none => .error (.python (.keyError ("no canary " ++ id.pyStr)))

def polled (status : Dict String Json) : Except SqlStore.Fault (Dict String Json) :=
  match awaits status with
  | some id => do return noted status (← rowOf op store id)
  | none => .ok status

def desiredOf (group : String) : Except SqlStore.Fault (Option Int) :=
  match store.desiredState.get? group with
  | none => .ok none
  | some id =>
    if (store.find id).isSome then .ok (some id)
    else .error (.python (Store.missing "no config_version " id))

def replicaViews (group : String) : Json :=
  .list (((store.replicaStatus.entries.filter fun r => r.2.replicaGroup = group).insertionSort
    fun a b => a.1 ≤ b.1).map replicaView)

def withView (group : String) (d : Option Int) (status : Dict String Json) : Dict String Json :=
  (status.insert "desiredVersionId" (SqlStore.intOrNull d)).insert "replicas"
    (replicaViews store group)

def surveyed (group : String) (status : Dict String Json) :
    Except SqlStore.Fault (Dict String Json) := do
  let status ← polled op store status
  return withView store group (← desiredOf store group) status

end Survey

variable {op : FleetOperator} {s : FleetState}

theorem reads_canary (id : Json) : Reads (op.canary id) s (rowOf op s.store id) := by
  refine reads_bind (reads_ofExcept _ _) fun n _ => reads_get_bind ?_
  cases n.bind s.store.canaryTable.get? <;> rfl

theorem reads_poll (status : Dict String Json) :
    Reads (op.poll status) s (polled op s.store status) := by
  unfold FleetOperator.poll polled
  cases awaits status with
  | none => rfl
  | some id => exact reads_bind (reads_canary id) fun row _ => rfl

theorem onStore_run {α : Type} (x : StoreM α) (s : FleetState) : (onStore x).run s =
    match x.run s.store with
    | .ok a t => .ok a { s with store := t }
    | .error e t => .error (.python e) { s with store := t } := rfl

theorem reads_view (group : String) (status : Dict String Json) :
    Reads (view group status) s
      (do return withView s.store group (← desiredOf s.store group) status) := by
  unfold Reads view desiredOf
  rw [EStateM.run_bind, onStore_run, Store.desired_run]
  cases s.store.desiredState.get? group with
  | none => rfl
  | some id =>
    cases hv : s.store.find id with
    | none =>
      simp only [hv]
      rfl
    | some v =>
      have hid := (Store.find_eq_some_iff.mp hv).2
      simp only [hv]
      rw [← hid]
      rfl

/-- Nothing is read but the store, the canary that the status waits for and the status itself. -/
theorem reads_survey (group : String) (status : Dict String Json) :
    Reads (op.poll status >>= view group) s (surveyed op s.store group status) :=
  reads_bind (reads_poll status) fun status _ => reads_view group status

/-! ## An object that asks for nothing -/

theorem extends_refl (s : Store) : Extends s s := List.prefix_rfl

theorem extends_trans ⦃s t u : Store⦄ (h : Extends s t) (h' : Extends t u) : Extends s u :=
  List.IsPrefix.trans h h'

theorem extends_apply (s : Store) (o : StoreOp) : Extends s (StoreHistory.apply s o) :=
  extends_of_advances (apply_advances s o)

theorem extends_required {α : Type} (key : String) (o : Option α) :
    Respects Extends (required key o) := by
  cases o with
  | none => exact respects_throw extends_refl _
  | some a => exact respects_pure extends_refl a

theorem extends_replicasOf (group : String) : Respects Extends (op.replicasOf group) := by
  unfold FleetOperator.replicasOf
  by_cases h : op.replicas.isEmpty
  · rw [if_pos h]
    refine respects_bind extends_trans (fun s => extends_refl s) fun rows => ?_
    exact respects_pure extends_refl _
  · rw [if_neg h]
    exact respects_pure extends_refl _

theorem extends_release (spec : Spec) (v : ConfigVersion) (status : Dict String Json) :
    Respects Extends (op.release spec v status) := by
  unfold FleetOperator.release
  cases spec.canary? with
  | none =>
    refine respects_bind extends_trans (fun s => ?_) fun _ => respects_pure extends_refl _
    exact extends_apply s (.promote spec.group v.id)
  | some c =>
    refine respects_bind extends_trans (extends_replicasOf spec.group) fun replicas => ?_
    refine respects_bind extends_trans (extends_required _ _) fun scope => ?_
    refine respects_bind extends_trans (extends_required _ _) fun gates => ?_
    refine respects_bind extends_trans ?_ fun _ => respects_pure extends_refl _
    exact respects_start extends_refl extends_trans extends_apply _ _ _ _ _

theorem release_extends {spec : Spec} {v : ConfigVersion} {status new : Dict String Json}
    {s t : Store} (h : (op.release spec v status).run s = .ok new t) : Extends s t :=
  final_of_ok h ▸ extends_release spec v status s

/-- A version proposed is a row more. -/
theorem advance_grows {key : String × String} {obj : ConfigObject} (h : op.Asks obj) {s t : Store}
    {new : Dict String Json} (hrun : (op.advance key obj).run s = .ok new t) :
    s.configVersion.rows.length < t.configVersion.rows.length := by
  unfold FleetOperator.advance at hrun
  rw [if_pos h, EStateM.run_bind, Store.propose_run] at hrun
  rcases Store.desired_reads s obj.spec.group with ⟨parent, hp⟩ | ⟨e, he⟩
  · rw [hp] at hrun
    have hlength := List.IsPrefix.length_le (release_extends hrun)
    rw [SerialTable.rows_insert, List.length_append, List.length_singleton] at hlength
    exact hlength
  · rw [he] at hrun
    cases hrun

theorem advance_idle {key : String × String} {obj : ConfigObject} (h : ¬op.Asks obj) :
    op.advance key obj = pure obj.status := if_neg h

def reported (s : FleetState) (key : String × String) (old new : Dict String Json) : FleetState :=
  if new.eqv Json.same old then s
  else { s with
    objects := match s.objects.get? key with
      | some obj => s.objects.insert key { obj with status := obj.status.mergePatch new }
      | none => s.objects
    patches := s.patches ++ [(key, new)] }

theorem reported_store (s : FleetState) (key : String × String) (old new : Dict String Json) :
    (reported s key old new).store = s.store := by
  unfold reported
  split <;> rfl

theorem reconcileOne_run (key : String × String) (obj : ConfigObject) (s : FleetState) :
    (op.reconcileOne key obj).run s = match (op.advance key obj).run s.store with
      | .error e t => .error (.python e) { s with store := t }
      | .ok status t => match surveyed op t obj.spec.group status with
        | .error e => .error e { s with store := t }
        | .ok new => .ok new (reported { s with store := t } key obj.status new) := by
  have hassoc : op.reconcileOne key obj = onStore (op.advance key obj) >>= fun status =>
      (op.poll status >>= view obj.spec.group) >>= fun status => do
        if !status.eqv Json.same obj.status then patchStatus key status
        return status := by
    unfold FleetOperator.reconcileOne
    simp only [bind_assoc]
  rw [hassoc, EStateM.run_bind, onStore_run]
  cases (op.advance key obj).run s.store with
  | error e t => rfl
  | ok status t =>
    have hread : Reads (op.poll status >>= view obj.spec.group) { s with store := t }
        (surveyed op t obj.spec.group status) := reads_survey obj.spec.group status
    simp only
    rw [EStateM.run_bind, hread, ofExcept_run]
    cases surveyed op t obj.spec.group status with
    | error e => rfl
    | ok new =>
      simp only [reported]
      cases new.eqv Json.same obj.status <;> rfl

/-- What becomes of an object in a pass that leaves the store as it is. -/
structure Passes (op : FleetOperator) (store : Store) (obj : ConfigObject)
    (new : Dict String Json) : Prop where
  idle : ¬op.Asks obj
  survey : surveyed op store obj.spec.group obj.status = .ok new

theorem reconcileOne_passes {key : String × String} {obj : ConfigObject} {new : Dict String Json}
    {store : Store} (h : Passes op store obj new) (s : FleetState) (hs : s.store = store) :
    (op.reconcileOne key obj).run s = .ok new (reported s key obj.status new) := by
  subst hs
  rw [reconcileOne_run, advance_idle h.idle]
  simp only [EStateM.run_pure, h.survey]

theorem passes_of_run {key : String × String} {obj : ConfigObject} {new : Dict String Json}
    {t : FleetState} (hrun : (op.reconcileOne key obj).run s = .ok new t)
    (hstore : t.store = s.store) : Passes op s.store obj new := by
  rw [reconcileOne_run] at hrun
  cases hadvance : (op.advance key obj).run s.store with
  | error e u =>
    rw [hadvance] at hrun
    cases hrun
  | ok status u =>
    rw [hadvance] at hrun
    simp only at hrun
    cases hsurvey : surveyed op u obj.spec.group status with
    | error e =>
      rw [hsurvey] at hrun
      cases hrun
    | ok new' =>
      rw [hsurvey] at hrun
      cases hrun
      rw [reported_store] at hstore
      simp only at hstore
      subst hstore
      have hidle : ¬op.Asks obj := fun h => Nat.lt_irrefl _ (advance_grows h hadvance)
      rw [advance_idle hidle] at hadvance
      cases hadvance
      exact ⟨hidle, hsurvey⟩

theorem quiet_iff : op.Quiet s ↔
    ∀ p ∈ op.listConfigs s, ∃ new, Passes op s.store p.2 new := by
  constructor
  · intro h p hp
    obtain ⟨new, t, hrun, hstore⟩ := h p hp
    exact ⟨new, passes_of_run hrun hstore⟩
  · intro h p hp
    obtain ⟨new, hpass⟩ := h p hp
    exact ⟨new, _, reconcileOne_passes hpass s rfl, reported_store ..⟩

/-! ## The keys of a new status -/

section Keys

variable {store : Store} {group : String} {status new : Dict String Json}

/-- The status after `poll`, and what the group's pointer is. -/
theorem surveyed_ok (h : surveyed op store group status = .ok new) :
    ∃ seen d, polled op store status = .ok seen ∧ desiredOf store group = .ok d ∧
      new = withView store group d seen := by
  obtain ⟨seen, hseen, h⟩ := ok_of_bind h
  obtain ⟨d, hd, h⟩ := ok_of_bind h
  cases h
  exact ⟨seen, d, hseen, hd, rfl⟩

theorem surveyed_of {seen : Dict String Json} {d : Option Int}
    (hseen : polled op store status = .ok seen) (hd : desiredOf store group = .ok d) :
    surveyed op store group status = .ok (withView store group d seen) := by
  unfold surveyed
  rw [hseen, hd]
  rfl

theorem desiredOf_eq {d : Option Int} (h : desiredOf store group = .ok d) :
    d = store.desiredState.get? group := by
  unfold desiredOf at h
  cases hp : store.desiredState.get? group with
  | none =>
    rw [hp] at h
    exact (Except.ok.inj h).symm
  | some id =>
    rw [hp] at h
    simp only at h
    split at h
    · exact (Except.ok.inj h).symm
    · cases h

/-- Either the canary is closed, or nothing is noted of it. -/
theorem polled_ok {seen : Dict String Json} (h : polled op store status = .ok seen) :
    seen = status ∨ ∃ id row, awaits status = some id ∧ rowOf op store id = .ok row ∧
      row.status ≠ "observing" ∧ seen = (status.insert "phase" (.str row.status)).insert
        "canaryDecision" (.str row.decision) := by
  unfold polled at h
  cases hid : awaits status with
  | none =>
    rw [hid] at h
    exact .inl (Except.ok.inj h).symm
  | some id =>
    rw [hid] at h
    obtain ⟨row, hrow, h⟩ := ok_of_bind h
    cases h
    unfold noted
    by_cases hopen : row.status ≠ "observing"
    · rw [if_pos hopen]
      exact .inr ⟨id, row, rfl, hrow, hopen, rfl⟩
    · rw [if_neg hopen]
      exact .inl rfl

theorem polled_row {seen : Dict String Json} {id : Json} (h : polled op store status = .ok seen)
    (hid : awaits status = some id) :
    ∃ row, rowOf op store id = .ok row ∧ seen = noted status row := by
  unfold polled at h
  rw [hid] at h
  obtain ⟨row, hrow, h⟩ := ok_of_bind h
  cases h
  exact ⟨row, hrow, rfl⟩

theorem isDict_of_rowOf {id : Json} {row : CanaryRow} (h : rowOf op store id = .ok row) :
    id.isDict = false := by
  cases id with
  | dict kvs => cases h
  | _ => rfl

theorem get?_withView_desired (d : Option Int) (status : Dict String Json) :
    (withView store group d status).get? "desiredVersionId" = some (SqlStore.intOrNull d) := by
  rw [withView, Dict.get?_insert_of_ne _ _ (by decide), Dict.get?_insert_self]

theorem get?_withView_replicas (d : Option Int) (status : Dict String Json) :
    (withView store group d status).get? "replicas" = some (replicaViews store group) :=
  Dict.get?_insert_self ..

theorem get?_withView_of_ne {k : String} (hd : k ≠ "desiredVersionId") (hr : k ≠ "replicas")
    (d : Option Int) (status : Dict String Json) :
    (withView store group d status).get? k = status.get? k := by
  rw [withView, Dict.get?_insert_of_ne _ _ hr, Dict.get?_insert_of_ne _ _ hd]

/-- A key of the status that the new one does not set keeps its value. -/
theorem get?_surveyed_of_ne {k : String} (h : surveyed op store group status = .ok new)
    (hd : k ≠ "desiredVersionId") (hr : k ≠ "replicas") (hp : k ≠ "phase")
    (hc : k ≠ "canaryDecision") : new.get? k = status.get? k := by
  obtain ⟨seen, d, hseen, -, rfl⟩ := surveyed_ok h
  rw [get?_withView_of_ne hd hr]
  obtain rfl | ⟨id, row, -, -, -, rfl⟩ := polled_ok hseen
  · rfl
  · rw [Dict.get?_insert_of_ne _ _ hc, Dict.get?_insert_of_ne _ _ hp]

theorem get?_mergePatch_str_iff {live : Dict String Json} {k t : String}
    (hnone : new.get? k = none → live.get? k = none) :
    (live.mergePatch new).get? k = some (.str t) ↔ new.get? k = some (.str t) := by
  cases hv : new.get? k with
  | none => rw [Dict.get?_mergePatch_of_none hv, hnone hv]
  | some v =>
    by_cases hnull : v = .null
    · subst hnull
      rw [Dict.get?_mergePatch_of_null hv]
      exact iff_of_false (by simp) (by simp)
    · cases hdict : v.isDict with
      | false => rw [Dict.get?_mergePatch_of_scalar hv hnull hdict]
      | true =>
        obtain ⟨w, hw, hwdict⟩ :=
          Dict.get?_mergePatch_of_dict (show new.get? k = some v from hv) hdict
        rw [hw]
        refine iff_of_false (fun h => ?_) fun h => ?_
        · cases h
          cases hwdict
        · cases h
          cases hdict

/-- The status waits for the same canary when its own copy is merged into it. -/
theorem awaits_mergePatch {live : Dict String Json}
    (hphase : new.get? "phase" = none → live.get? "phase" = none)
    (hid : new.get? "canaryId" = live.get? "canaryId")
    (hscalar : ∀ id, awaits new = some id → id.isDict = false) :
    awaits (live.mergePatch new) = awaits new := by
  unfold awaits at hscalar ⊢
  by_cases hcanary : new.get? "phase" = some (.str "canary")
  · rw [if_pos hcanary, if_pos ((get?_mergePatch_str_iff hphase).mpr hcanary)]
    simp only [hcanary, if_true] at hscalar
    cases hv : new.get? "canaryId" with
    | none => rw [Dict.get?_mergePatch_of_none hv, ← hid, hv]
    | some v =>
      by_cases hnull : v = .null
      · subst hnull
        rw [Dict.get?_mergePatch_of_null hv]
        rfl
      · cases hdict : v.isDict with
        | false => rw [Dict.get?_mergePatch_of_scalar hv hnull hdict]
        | true =>
          -- An object that is merged with itself stays empty when it is empty.
          cases htruthy : v.truthy with
          | true =>
            rw [hscalar v (by rw [hv, Option.filter_some, htruthy, if_pos rfl])] at hdict
            cases hdict
          | false =>
            rw [Dict.get?_mergePatch, hv]
            simp only [Dict.patched, if_neg hnull, ← hid, hv, Option.getD_some]
            cases v with
            | dict kvs =>
              cases kvs with
              | nil => rfl
              | cons p kvs => cases htruthy
            | _ => cases hdict
  · rw [if_neg hcanary, if_neg fun h => hcanary ((get?_mergePatch_str_iff hphase).mp h)]

theorem awaits_eq_some_iff {status : Dict String Json} {id : Json} : awaits status = some id ↔
    status.get? "phase" = some (.str "canary") ∧ status.get? "canaryId" = some id ∧
      id.truthy = true := by
  unfold awaits
  by_cases h : status.get? "phase" = some (.str "canary")
  · rw [if_pos h, Option.filter_eq_some_iff]
    exact (and_iff_right h).symm
  · rw [if_neg h]
    exact iff_of_false (by simp) fun hid => h hid.1

/-- A status that waits for a canary did so before it was brought up to date. -/
theorem awaits_of_surveyed {id : Json} (h : surveyed op store group status = .ok new)
    (hid : awaits new = some id) : awaits status = some id := by
  obtain ⟨hphase, hcanary, htruthy⟩ := awaits_eq_some_iff.mp hid
  rw [get?_surveyed_of_ne h (by decide) (by decide) (by decide) (by decide)] at hcanary
  refine awaits_eq_some_iff.mpr ⟨?_, hcanary, htruthy⟩
  obtain ⟨seen, d, hseen, -, rfl⟩ := surveyed_ok h
  obtain rfl | ⟨id', row, hid', -, -, -⟩ := polled_ok hseen
  · rwa [get?_withView_of_ne (by decide) (by decide)] at hphase
  · exact (awaits_eq_some_iff.mp hid').1

theorem surveyed_row {id : Json} (h : surveyed op store group status = .ok new)
    (hid : awaits new = some id) : ∃ row, rowOf op store id = .ok row := by
  obtain ⟨seen, d, hseen, -, -⟩ := surveyed_ok h
  obtain ⟨row, hrow, -⟩ := polled_row hseen (awaits_of_surveyed h hid)
  exact ⟨row, hrow⟩

theorem phase_kept (h : surveyed op store group status = .ok new)
    (hphase : new.get? "phase" = none) : status.get? "phase" = none := by
  obtain ⟨seen, d, hseen, -, rfl⟩ := surveyed_ok h
  rw [get?_withView_of_ne (by decide) (by decide)] at hphase
  obtain rfl | ⟨id, row, -, -, -, rfl⟩ := polled_ok hseen
  · exact hphase
  · rw [Dict.get?_insert_of_ne _ _ (by decide), Dict.get?_insert_self] at hphase
    cases hphase

theorem awaits_merged (h : surveyed op store group status = .ok new) :
    awaits (status.mergePatch new) = awaits new := by
  refine awaits_mergePatch (phase_kept h) ?_ fun id hid => ?_
  · exact get?_surveyed_of_ne h (by decide) (by decide) (by decide) (by decide)
  · obtain ⟨row, hrow⟩ := surveyed_row h hid
    exact isDict_of_rowOf hrow

/-- After the merge the canary that the status waits for is open, or all of it is in the status. -/
theorem polled_merged (h : surveyed op store group status = .ok new) :
    ∃ seen, polled op store (status.mergePatch new) = .ok seen ∧
      ∀ k, seen.get? k = (status.mergePatch new).get? k := by
  unfold polled
  rw [awaits_merged h]
  cases hid : awaits new with
  | none => exact ⟨_, rfl, fun k => rfl⟩
  | some id =>
    obtain ⟨seen, d, hseen, -, rfl⟩ := surveyed_ok h
    obtain ⟨row, hrow, rfl⟩ := polled_row hseen (awaits_of_surveyed h hid)
    simp only [hrow]
    refine ⟨_, rfl, fun k => ?_⟩
    unfold noted at hid ⊢
    by_cases hclosed : row.status ≠ "observing"
    · rw [if_pos hclosed] at hid ⊢
      have hset : ∀ {j t : String}, j ≠ "desiredVersionId" → j ≠ "replicas" →
          ((status.insert "phase" (.str row.status)).insert "canaryDecision"
            (.str row.decision)).get? j = some (.str t) →
          (status.mergePatch (withView store group d ((status.insert "phase"
            (.str row.status)).insert "canaryDecision" (.str row.decision)))).get? j =
              some (.str t) := by
        intro j t hd hr hj
        refine Dict.get?_mergePatch_of_scalar ?_ Json.noConfusion rfl
        rw [get?_withView_of_ne hd hr, hj]
      have hphase := hset (j := "phase") (t := row.status) (by decide) (by decide) (by
        rw [Dict.get?_insert_of_ne _ _ (by decide), Dict.get?_insert_self])
      have hdecision := hset (j := "canaryDecision") (t := row.decision) (by decide) (by decide)
        (Dict.get?_insert_self ..)
      rw [if_pos hclosed, Dict.get?_insert, Dict.get?_insert]
      split_ifs with hk hk'
      · rw [hk, hdecision]
      · rw [hk', hphase]
      · rfl
    · rw [if_neg hclosed]

def Settled (op : FleetOperator) (store : Store) (obj : ConfigObject) : Prop :=
  ∃ new, Passes op store obj new ∧ new.eqv Json.same obj.status = true

def after (old new : Dict String Json) : Dict String Json :=
  if new.eqv Json.same old then old else old.mergePatch new

theorem eqv_of_get?_eq {d e : Dict String Json} (h : ∀ k, d.get? k = e.get? k) :
    d.eqv Json.same e = true := by
  rw [Dict.eqv_iff]
  intro k
  rw [h k]
  cases e.get? k with
  | none => exact .none
  | some v => exact .some (Json.same_iff.mpr rfl)

theorem passes_merged {obj : ConfigObject} (h : Passes op store obj new) :
    ∃ new', Passes op store { obj with status := obj.status.mergePatch new } new' ∧
      (new'.eqv Json.same (obj.status.mergePatch new) = true ↔
        (store.desiredState.get? obj.spec.group).isSome) := by
  have hidle : ¬op.Asks { obj with status := obj.status.mergePatch new } := by
    rintro ⟨hhash, hfields⟩
    refine h.idle ⟨fun hold => hhash ?_, hfields⟩
    have hnew := get?_surveyed_of_ne h.survey (k := "appliedHash") (by decide) (by decide)
      (by decide) (by decide)
    exact Dict.get?_mergePatch_of_scalar (hnew.trans hold) Json.noConfusion rfl
  obtain ⟨seen, hseen, hsame⟩ := polled_merged h.survey
  obtain ⟨old, d, hold, hd, hnew⟩ := surveyed_ok h.survey
  refine ⟨_, ⟨hidle, surveyed_of hseen hd⟩, ?_⟩
  rw [← desiredOf_eq hd]
  have hpointer : new.get? "desiredVersionId" = some (SqlStore.intOrNull d) := by
    rw [hnew, get?_withView_desired]
  have hreplicas : new.get? "replicas" = some (replicaViews store obj.spec.group) := by
    rw [hnew, get?_withView_replicas]
  cases d with
  | none =>
    refine iff_of_false (fun heqv => ?_) fun h => Bool.noConfusion h
    have hkey := Dict.eqv_iff.mp heqv "desiredVersionId"
    rw [get?_withView_desired, Dict.get?_mergePatch_of_null hpointer] at hkey
    cases hkey
  | some n =>
    refine iff_of_true (eqv_of_get?_eq fun k => ?_) rfl
    by_cases hr : k = "replicas"
    · subst hr
      rw [get?_withView_replicas,
        Dict.get?_mergePatch_of_scalar hreplicas Json.noConfusion rfl]
    · by_cases hv : k = "desiredVersionId"
      · subst hv
        rw [get?_withView_desired,
          Dict.get?_mergePatch_of_scalar hpointer Json.noConfusion rfl]
      · rw [get?_withView_of_ne hv hr, hsame]

theorem passes_after {obj : ConfigObject} (h : Passes op store obj new) :
    ∃ new', Passes op store { obj with status := after obj.status new } new' := by
  unfold after
  split
  · exact ⟨new, h⟩
  · obtain ⟨new', h', -⟩ := passes_merged h
    exact ⟨new', h'⟩

theorem passes_unique {obj : ConfigObject} {new' : Dict String Json} (h : Passes op store obj new)
    (h' : Passes op store obj new') : new = new' := by
  have heq := h.survey.symm.trans h'.survey
  exact Except.ok.inj heq

/-- One pass settles an object whose group has a desired version, and no other that is not. -/
theorem settled_after_iff {obj : ConfigObject} (h : Passes op store obj new) :
    Settled op store { obj with status := after obj.status new } ↔
      (store.desiredState.get? obj.spec.group).isSome ∨ Settled op store obj := by
  unfold after
  cases heqv : new.eqv Json.same obj.status with
  | true =>
    refine iff_of_true ⟨new, h, heqv⟩ (.inr ⟨new, h, heqv⟩)
  | false =>
    obtain ⟨new', h', hiff⟩ := passes_merged h
    constructor
    · rintro ⟨new'', h'', hsame⟩
      obtain rfl := passes_unique h' h''
      exact .inl (hiff.mp hsame)
    · rintro (hd | ⟨new'', h'', hsame⟩)
      · exact ⟨new', h', hiff.mpr hd⟩
      · obtain rfl := passes_unique h h''
        rw [heqv] at hsame
        cases hsame

/-- The status shows its group without a desired version, its replicas as they are, and its
canary, if that is closed, as it was decided. -/
def UpToDate (op : FleetOperator) (store : Store) (obj : ConfigObject) : Prop :=
  obj.status.get? "desiredVersionId" = some .null ∧
    (∃ v, obj.status.get? "replicas" = some v ∧
      Json.same (replicaViews store obj.spec.group) v = true) ∧
    ∀ id row, awaits obj.status = some id → rowOf op store id = .ok row →
      row.status ≠ "observing" → row.status = "canary" ∧
        obj.status.get? "canaryDecision" = some (.str row.decision)

theorem same_str_iff {t : String} {v : Json} : Json.same (.str t) v = true ↔ v = .str t := by
  rw [Json.same_iff]
  cases v <;> simp [Json.canon, eq_comm]

theorem same_null_iff {v : Json} : Json.same .null v = true ↔ v = .null := by
  rw [Json.same_iff]
  cases v <;> simp [Json.canon]

theorem rel_some_iff {v : Json} {o : Option Json} :
    Option.Rel (fun a b => Json.same a b = true) (some v) o ↔
      ∃ w, o = some w ∧ Json.same v w = true := by
  constructor
  · intro h
    cases h with
    | some hvw => exact ⟨_, rfl, hvw⟩
  · rintro ⟨w, rfl, hvw⟩
    exact .some hvw

theorem rel_refl (o : Option Json) : Option.Rel (fun a b => Json.same a b = true) o o := by
  cases o with
  | none => exact .none
  | some v => exact .some (Json.same_iff.mpr rfl)

theorem rel_str_iff {t : String} {o : Option Json} :
    Option.Rel (fun a b => Json.same a b = true) (some (.str t)) o ↔ o = some (.str t) := by
  rw [rel_some_iff]
  constructor
  · rintro ⟨w, rfl, hw⟩
    rw [same_str_iff.mp hw]
  · rintro rfl
    exact ⟨_, rfl, same_str_iff.mpr rfl⟩

theorem settled_iff_upToDate {obj : ConfigObject} (h : Passes op store obj new)
    (hd : store.desiredState.get? obj.spec.group = none) :
    Settled op store obj ↔ UpToDate op store obj := by
  have hsettled : Settled op store obj ↔ new.eqv Json.same obj.status = true := by
    constructor
    · rintro ⟨new', h', hsame⟩
      rwa [passes_unique h h']
    · exact fun hsame => ⟨new, h, hsame⟩
  rw [hsettled, Dict.eqv_iff]
  obtain ⟨seen, d, hseen, hdesired, rfl⟩ := surveyed_ok h.survey
  obtain rfl : d = none := (desiredOf_eq hdesired).trans hd
  constructor
  · intro hkeys
    refine ⟨?_, ?_, fun id row hid hrow hclosed => ?_⟩
    · have hkey := hkeys "desiredVersionId"
      rw [get?_withView_desired, rel_some_iff] at hkey
      obtain ⟨v, hv, hsame⟩ := hkey
      rw [hv, same_null_iff.mp hsame]
    · have hkey := hkeys "replicas"
      rwa [get?_withView_replicas, rel_some_iff] at hkey
    · obtain ⟨row', hrow', rfl⟩ := polled_row hseen hid
      obtain rfl := Except.ok.inj (hrow.symm.trans hrow')
      have hphase := hkeys "phase"
      have hdecision := hkeys "canaryDecision"
      rw [get?_withView_of_ne (by decide) (by decide), noted, if_pos hclosed] at hphase hdecision
      rw [Dict.get?_insert_of_ne _ _ (by decide), Dict.get?_insert_self, rel_str_iff,
        (awaits_eq_some_iff.mp hid).1] at hphase
      rw [Dict.get?_insert_self, rel_str_iff] at hdecision
      exact ⟨(Json.str.inj (Option.some.inj hphase)).symm, hdecision⟩
  · rintro ⟨hpointer, hreplicas, hcanary⟩ k
    by_cases hr : k = "replicas"
    · subst hr
      rw [get?_withView_replicas, rel_some_iff]
      exact hreplicas
    by_cases hv : k = "desiredVersionId"
    · subst hv
      rw [get?_withView_desired, hpointer]
      exact rel_refl _
    rw [get?_withView_of_ne hv hr]
    obtain rfl | ⟨id, row, hid, hrow, hclosed, rfl⟩ := polled_ok hseen
    · exact rel_refl _
    · obtain ⟨hstatus, hdecision⟩ := hcanary id row hid hrow hclosed
      rw [Dict.get?_insert, Dict.get?_insert]
      split_ifs with hc hp
      · rw [hc, rel_str_iff]
        exact hdecision
      · rw [hp, rel_str_iff, hstatus]
        exact (awaits_eq_some_iff.mp hid).1
      · exact rel_refl _

end Keys

/-! ## One tick -/

theorem mem_listConfigs {p : (String × String) × ConfigObject} :
    p ∈ op.listConfigs s ↔ s.objects.get? p.1 = some p.2 ∧ op.listed p.1 = true := by
  rw [FleetOperator.listConfigs, List.mem_filter, Dict.get?_eq_some_iff]

theorem nodup_listConfigs : ((op.listConfigs s).map Prod.fst).Nodup :=
  s.objects.nodup.sublist (List.filter_sublist.map _)

theorem reported_patches (key : String × String) (old new : Dict String Json) :
    (reported s key old new).patches =
      s.patches ++ if new.eqv Json.same old then [] else [(key, new)] := by
  unfold reported
  split
  · exact (List.append_nil _).symm
  · rfl

theorem reported_self {key : String × String} {obj : ConfigObject} {new : Dict String Json}
    (h : s.objects.get? key = some obj) : (reported s key obj.status new).objects.get? key =
      some { obj with status := after obj.status new } := by
  unfold reported after
  split
  · exact h
  · simp only [h, Dict.get?_insert_self]

theorem reported_of_ne {key k : String × String} {old new : Dict String Json} (h : k ≠ key) :
    (reported s key old new).objects.get? k = s.objects.get? k := by
  unfold reported
  split
  · rfl
  · simp only
    cases s.objects.get? key with
    | none => rfl
    | some obj => exact Dict.get?_insert_of_ne _ _ h

structure Round (op : FleetOperator) (items : List ((String × String) × ConfigObject))
    (s t : FleetState) : Prop where
  store : t.store = s.store
  listed : ∀ p ∈ items, ∀ new, Passes op s.store p.2 new →
    t.objects.get? p.1 = some { p.2 with status := after p.2.status new }
  others : ∀ k, k ∉ items.map Prod.fst → t.objects.get? k = s.objects.get? k
  sent : ∃ sent, t.patches = s.patches ++ sent ∧
    (sent = [] ↔ ∀ p ∈ items, Settled op s.store p.2)

theorem tickOne_passes {key : String × String} {obj : ConfigObject} {new : Dict String Json}
    (h : Passes op s.store obj new) :
    (op.tickOne key obj).run s = .ok new (reported s key obj.status new) :=
  rescue_of_ok (reconcileOne_passes h s rfl) _

theorem round_cons {p : (String × String) × ConfigObject}
    {items : List ((String × String) × ConfigObject)} {new : Dict String Json} {t : FleetState}
    (hfresh : p.1 ∉ items.map Prod.fst) (hp : s.objects.get? p.1 = some p.2)
    (hnew : Passes op s.store p.2 new)
    (h : Round op items (reported s p.1 p.2.status new) t) : Round op (p :: items) s t where
  store := h.store.trans (reported_store ..)
  listed q hq new' hnew' := by
    rcases List.mem_cons.mp hq with rfl | hq
    · obtain rfl := passes_unique hnew hnew'
      rw [h.others _ hfresh]
      exact reported_self hp
    · rw [← reported_store s p.1 p.2.status new] at hnew'
      exact h.listed q hq new' hnew'
  others k hk := by
    rw [List.map_cons, List.mem_cons, not_or] at hk
    rw [h.others k hk.2, reported_of_ne hk.1]
  sent := by
    obtain ⟨sent, hsent, hiff⟩ := h.sent
    rw [reported_store] at hiff
    refine ⟨(if new.eqv Json.same p.2.status then [] else [(p.1, new)]) ++ sent, ?_, ?_⟩
    · rw [hsent, reported_patches, List.append_assoc]
    · have hhead : (if new.eqv Json.same p.2.status then [] else [(p.1, new)]) = [] ↔
          Settled op s.store p.2 := by
        constructor
        · intro hnil
          split at hnil
          · rename_i heqv
            exact ⟨new, hnew, heqv⟩
          · cases hnil
        · rintro ⟨new', hnew', heqv⟩
          obtain rfl := passes_unique hnew hnew'
          rw [if_pos heqv]
      rw [List.append_eq_nil_iff, hhead, hiff, List.forall_mem_cons]

theorem round_run (items : List ((String × String) × ConfigObject)) (s : FleetState)
    (out : Dict String (Dict String Json)) (hnodup : (items.map Prod.fst).Nodup)
    (hcurrent : ∀ p ∈ items, s.objects.get? p.1 = some p.2)
    (hquiet : ∀ p ∈ items, ∃ new, Passes op s.store p.2 new) :
    Round op items s (final (items.foldlM
      (fun out p => return out.insert p.1.2 (← op.tickOne p.1 p.2)) out) s) := by
  induction items generalizing s out with
  | nil =>
    refine ⟨rfl, fun p hp => ?_, fun k _ => rfl, [], (List.append_nil _).symm, ?_⟩
    · cases hp
    · exact iff_of_true rfl (List.forall_mem_nil _)
  | cons p items ih =>
    rw [List.map_cons, List.nodup_cons] at hnodup
    obtain ⟨new, hnew⟩ := hquiet p List.mem_cons_self
    refine round_cons hnodup.1 (hcurrent p List.mem_cons_self) hnew ?_
    have hstep : final ((p :: items).foldlM
        (fun out p => return out.insert p.1.2 (← op.tickOne p.1 p.2)) out) s =
        final (items.foldlM (fun out p => return out.insert p.1.2 (← op.tickOne p.1 p.2))
          (out.insert p.1.2 new)) (reported s p.1 p.2.status new) := by
      rw [List.foldlM_cons, final_bind, EStateM.run_bind, tickOne_passes hnew]
      rfl
    rw [hstep]
    refine ih _ _ hnodup.2 (fun q hq => ?_) fun q hq => ?_
    · rw [reported_of_ne fun h => hnodup.1 (List.mem_map.mpr ⟨q, hq, h⟩)]
      exact hcurrent q (List.mem_cons_of_mem p hq)
    · rw [reported_store]
      exact hquiet q (List.mem_cons_of_mem p hq)

theorem tick_round (h : op.Quiet s) : Round op (op.listConfigs s) s (final op.tick s) :=
  round_run _ s ∅ nodup_listConfigs (fun _ hp => (mem_listConfigs.mp hp).1) (quiet_iff.mp h)

/-! ## The run -/

def AllSettled (op : FleetOperator) (s : FleetState) : Prop :=
  ∀ p ∈ op.listConfigs s, Settled op s.store p.2

/-- An object listed after the tick is one listed before it, brought up to date. -/
theorem listed_after (h : op.Quiet s) {key : String × String} {obj' : ConfigObject} :
    (key, obj') ∈ op.listConfigs (final op.tick s) ↔
      ∃ obj new, (key, obj) ∈ op.listConfigs s ∧ Passes op s.store obj new ∧
        obj' = { obj with status := after obj.status new } := by
  have hround := tick_round h
  rw [mem_listConfigs]
  constructor
  · rintro ⟨hobj', hlisted⟩
    by_cases hk : key ∈ (op.listConfigs s).map Prod.fst
    · obtain ⟨⟨key, obj⟩, hp, rfl⟩ := List.mem_map.mp hk
      obtain ⟨new, hnew⟩ := quiet_iff.mp h _ hp
      rw [hround.listed _ hp new hnew] at hobj'
      exact ⟨obj, new, hp, hnew, (Option.some.inj hobj').symm⟩
    · rw [hround.others key hk] at hobj'
      exact absurd (List.mem_map_of_mem (mem_listConfigs.mpr ⟨hobj', hlisted⟩)) hk
  · rintro ⟨obj, new, hp, hnew, rfl⟩
    exact ⟨hround.listed _ hp new hnew, (mem_listConfigs.mp hp).2⟩

theorem quiet_tick (h : op.Quiet s) : op.Quiet (final op.tick s) := by
  rw [quiet_iff, (tick_round h).store]
  rintro ⟨key, obj'⟩ hp
  obtain ⟨obj, new, -, hnew, rfl⟩ := (listed_after h).mp hp
  exact passes_after hnew

theorem undisturbed_of_quiet (h : op.Quiet s) : op.Undisturbed s := by
  intro n
  induction n with
  | zero => exact h
  | succ n ih => exact quiet_tick ih

theorem patches_tick_iff (h : op.Quiet s) :
    (final op.tick s).patches = s.patches ↔ AllSettled op s := by
  obtain ⟨sent, hsent, hiff⟩ := (tick_round h).sent
  rw [hsent, List.append_right_eq_self]
  exact hiff

theorem allSettled_tick_iff (h : op.Quiet s) : AllSettled op (final op.tick s) ↔
    ∀ p ∈ op.listConfigs s, (s.store.desiredState.get? p.2.spec.group).isSome ∨
      Settled op s.store p.2 := by
  unfold AllSettled
  rw [(tick_round h).store]
  constructor
  · intro hall p hp
    obtain ⟨new, hnew⟩ := quiet_iff.mp h p hp
    exact (settled_after_iff hnew).mp (hall _ ((listed_after h).mpr ⟨p.2, new, hp, hnew, rfl⟩))
  · rintro hall ⟨key, obj'⟩ hp
    obtain ⟨obj, new, hobj, hnew, rfl⟩ := (listed_after h).mp hp
    exact (settled_after_iff hnew).mpr (hall _ hobj)

theorem rests_iff_allSettled (h : op.Quiet s) :
    op.Rests s ↔ AllSettled op (final op.tick s) := by
  have hquiet := undisturbed_of_quiet h
  constructor
  · intro hrest
    exact (patches_tick_iff (hquiet 1)).mp (hrest 1)
  · intro hall
    have hstays : ∀ n, AllSettled op (op.ticks s (n + 1)) := by
      intro n
      induction n with
      | zero => exact hall
      | succ n ih => exact (allSettled_tick_iff (hquiet (n + 1))).mpr fun p hp => .inr (ih p hp)
    intro n
    induction n with
    | zero => rfl
    | succ n ih => exact ((patches_tick_iff (hquiet (n + 1))).mpr (hstays n)).trans ih

/-- Left alone, the operator comes to rest when every object's group has a desired version, or the
object's status needs no patch to begin with. -/
theorem operator_rests_iff (op : FleetOperator) (s : FleetState) (h : op.Undisturbed s) :
    op.Rests s ↔ ∀ p ∈ op.listConfigs s,
      (s.store.desiredState.get? p.2.spec.group).isSome ∨ UpToDate op s.store p.2 := by
  have hquiet : op.Quiet s := h 0
  rw [rests_iff_allSettled hquiet, allSettled_tick_iff hquiet]
  refine forall₂_congr fun p hp => ?_
  obtain ⟨new, hnew⟩ := quiet_iff.mp hquiet p hp
  cases hd : s.store.desiredState.get? p.2.spec.group with
  | none => rw [settled_iff_upToDate hnew hd]
  | some n => exact iff_of_true (.inl rfl) (.inl rfl)

/-! A canary in a group that never had a version, and the same group with one. -/

def cluster : FleetOperator where
  digest _ := "h"
  platform := {
    urlparse target := .ok (target, [])
    loads _ := .ok (.dict [])
    sorted := .ok
    encodeError _ := none
    realText x := (Json.float x).repr
    integerAffinity v := v
    copies _ := true
    allocate _ := .ok () }

def capFields : Fields := .ofList [("max_running_requests", .int 64)]

def firstCanary : FleetState where
  store := { Store.empty with
    configVersion := (∅ : SerialTable VersionRow).insert
      ⟨"prod", none, capFields, "k8s/inference/prod-cap", ""⟩
    canaryTable := (∅ : SerialTable CanaryRow).insert
      ⟨"prod", 1, none, ["r0"], [], 300, "observing", ""⟩ }
  objects := .ofList [(("inference", "prod-cap"),
    ⟨{ group := "prod", fields := capFields, canary := some { scope := some ["r0"] } },
      .ofList [("appliedHash", .str "h"), ("versionId", .int 1), ("phase", .str "canary"),
        ("canaryId", .int 1)]⟩)]
  patches := []

def released : FleetState := { firstCanary with
  store := { firstCanary.store with desiredState := .ofList [("prod", 1)] } }

theorem firstCanary_quiet : cluster.Quiet firstCanary := by
  rw [quiet_iff]
  refine List.forall_mem_singleton.mpr ⟨_, ⟨?_, rfl⟩⟩
  decide +kernel

theorem released_quiet : cluster.Quiet released := by
  rw [quiet_iff]
  refine List.forall_mem_singleton.mpr ⟨_, ⟨?_, rfl⟩⟩
  decide +kernel

theorem released_rests : cluster.Rests released := by
  refine (operator_rests_iff cluster released (undisturbed_of_quiet released_quiet)).mpr ?_
  exact List.forall_mem_singleton.mpr (.inl rfl)

/-- The first canary of a group is patched at every tick. -/
theorem first_canary_never_rests :
    cluster.Undisturbed firstCanary ∧ ¬cluster.Rests firstCanary := by
  refine ⟨undisturbed_of_quiet firstCanary_quiet, fun hrest => ?_⟩
  rw [rests_iff_allSettled firstCanary_quiet, allSettled_tick_iff firstCanary_quiet] at hrest
  have hlisted : (("inference", "prod-cap"), (⟨_, _⟩ : ConfigObject)) ∈
      cluster.listConfigs firstCanary := List.mem_cons_self
  obtain ⟨new, hnew⟩ := quiet_iff.mp firstCanary_quiet _ hlisted
  rcases hrest _ hlisted with hd | hsettled
  · cases hd
  · rw [settled_iff_upToDate hnew rfl] at hsettled
    have hnull := hsettled.1
    cases hnull

end Trimtab.Fleet
