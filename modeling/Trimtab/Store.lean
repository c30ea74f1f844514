import Trimtab.Dict
import Trimtab.SerialTable
import Trimtab.Manifest
import Trimtab.Effects

set_option autoImplicit false

/-!
# The config store

Five tables and the methods of the one class over them. A method that raises keeps what
it wrote before, which is what `EStateM` does. Timestamps are left out: no decision of
the control plane reads one.
-/
namespace Trimtab
open PyText

structure VersionRow where
  replicaGroup : String
  parentId : Option Int
  fields : Fields
  createdBy : String
  reason : String
  deriving DecidableEq

structure ConfigVersion extends VersionRow where
  id : Int
  deriving DecidableEq

structure OverrideRow where
  versionId : Int
  canaryId : Int
  deriving DecidableEq

abbrev Gate := Dict String Json

structure CanaryRow where
  replicaGroup : String
  candidateVersionId : Int
  baselineVersionId : Option Int
  scope : List String
  gates : List Gate
  windowS : Rat
  status : String
  decision : String := ""
  deriving DecidableEq

structure StatusRow where
  replicaGroup : String
  appliedVersionId : Option Int
  state : String
  detail : String
  deriving DecidableEq

structure Store where
  configVersion : SerialTable VersionRow
  desiredState : Dict String Int
  replicaOverride : Dict String OverrideRow
  canaryTable : SerialTable CanaryRow
  replicaStatus : Dict String StatusRow
  deriving DecidableEq

abbrev StoreM := EStateM PyErr Store

/-- The range of SQLite's integers, and of Python's sizes. -/
def fits (n : Int) : Bool := -2 ^ 63 ≤ n && n < 2 ^ 63

namespace Store

section Ids

variable {ρ : Type}

/-- An id that a statement can be given: the database gives out no others. -/
def binds (table : SerialTable ρ) (id : Int) : Bool := fits id || (table.get? id).isSome

def tooLarge : PyErr := .overflowError "Python int too large to convert to SQLite INTEGER"

def bindId (table : SerialTable ρ) (id : Int) : StoreM Unit :=
  if binds table id then return else throw tooLarge

def fetch (table : SerialTable ρ) (what : String) (id : Int) : StoreM ρ := do
  bindId table id
  match table.get? id with
  | none => throw (.keyError (what ++ toString id))
  | some row => return row

end Ids

def empty : Store := ⟨∅, ∅, ∅, ∅, ∅⟩

def version (versionId : Int) : StoreM ConfigVersion := do
  return ⟨← fetch (← get).configVersion "no config_version " versionId, versionId⟩

def desired (group : String) : StoreM (Option ConfigVersion) := do
  match (← get).desiredState.get? group with
  | none => return none
  | some versionId => return some (← version versionId)

/-- A replica's target. A canary override wins over the group's desired. -/
def desiredFor (replicaId group : String) : StoreM (Option ConfigVersion) := do
  match (← get).replicaOverride.get? replicaId with
  | none => desired group
  | some o => return some (← version o.versionId)

def propose (group : String) (fields : Fields) (createdBy reason : String) :
    StoreM ConfigVersion := do
  let parent ← desired group
  let newId := (← get).configVersion.nextId
  modify fun s => { s with
    configVersion := s.configVersion.insert
      ⟨group, parent.map (·.id), fields.stored, createdBy, reason⟩ }
  version newId

def promote (group : String) (versionId : Int) : StoreM Unit := do
  let v ← version versionId
  if v.replicaGroup ≠ group then
    throw (.valueError ("version " ++ toString versionId ++ " belongs to group " ++
      pyRepr v.replicaGroup ++ ", not " ++ pyRepr group))
  modify fun s => { s with desiredState := s.desiredState.insert group versionId }

def rollback (group : String) (toVersionId : Int) : StoreM Unit := promote group toVersionId

def setOverrides (replicaIds : List String) (versionId canaryId : Int) : StoreM Unit := do
  if replicaIds ≠ [] then
    bindId (← get).configVersion versionId
    bindId (← get).canaryTable canaryId
  modify fun s => { s with
    replicaOverride := replicaIds.foldl (fun t r => t.insert r ⟨versionId, canaryId⟩)
      s.replicaOverride }

def clearOverrides (canaryId : Int) : StoreM Unit := do
  bindId (← get).canaryTable canaryId
  modify fun s => { s with
    replicaOverride := s.replicaOverride.filter fun _ o => o.canaryId ≠ canaryId }

def openCanary (group : String) (candidateId : Int) (scope : List String) (gates : List Gate)
    (windowS : Rat) : StoreM Int := do
  let base ← desired group
  bindId (← get).configVersion candidateId
  let newId := (← get).canaryTable.nextId
  modify fun s => { s with
    canaryTable := s.canaryTable.insert
      { replicaGroup := group, candidateVersionId := candidateId,
        baselineVersionId := base.map (·.id), scope := scope.insertionSort (· ≤ ·),
        gates := gates, windowS := windowS, status := "observing" } }
  return newId

def canary (canaryId : Int) : StoreM CanaryRow := do
  fetch (← get).canaryTable "no canary " canaryId

def closeCanary (canaryId : Int) (status decision : String) : StoreM Unit := do
  bindId (← get).canaryTable canaryId
  modify fun s => { s with
    canaryTable := s.canaryTable.modify canaryId fun row =>
      { row with status := status, decision := decision } }

def versions (group : String) : StoreM (List ConfigVersion) := do
  let rows := (← get).configVersion.rows.filter fun r => r.2.replicaGroup = group
  rows.mapM fun r => version r.1

/-- The applied id is that of a version its caller has read. -/
def recordStatus (replicaId group : String) (appliedVersionId : Option Int) (state detail : String) :
    StoreM Unit :=
  modify fun s => { s with
    replicaStatus := s.replicaStatus.insert replicaId ⟨group, appliedVersionId, state, detail⟩ }

def recordStatusOf (replicaId group : String) (appliedVersionId : Option Int)
    (state detail : String) : StoreM Unit := do
  if let some versionId := appliedVersionId then
    bindId (← get).configVersion versionId
  recordStatus replicaId group appliedVersionId state detail

def status (group : String) : StoreM (List (String × StatusRow)) := do
  return ((← get).replicaStatus.entries.filter fun r => r.2.replicaGroup = group).insertionSort
    fun a b => a.1 ≤ b.1

/-! ## What each method does -/

def find (s : Store) (versionId : Int) : Option ConfigVersion :=
  (s.configVersion.get? versionId).map fun row => ⟨row, versionId⟩

theorem find_eq_some_iff {s : Store} {id : Int} {v : ConfigVersion} :
    s.find id = some v ↔ s.configVersion.get? id = some v.toVersionRow ∧ v.id = id := by
  obtain ⟨row, i⟩ := v
  simp only [find, Option.map_eq_some_iff, ConfigVersion.mk.injEq]
  constructor
  · rintro ⟨r, hr, rfl, rfl⟩
    exact ⟨hr, rfl⟩
  · rintro ⟨hr, rfl⟩
    exact ⟨row, hr, rfl, rfl⟩

section Ids

variable {ρ : Type} {table : SerialTable ρ} {id : Int}

theorem bindId_run (table : SerialTable ρ) (id : Int) (s : Store) :
    (bindId table id).run s = if binds table id then .ok () s else .error tooLarge s := by
  unfold bindId
  split <;> rfl

theorem binds_row {row : ρ} (h : table.get? id = some row) : binds table id = true := by
  rw [binds, h, Option.isSome_some, Bool.or_true]

def missing (what : String) (id : Int) : PyErr :=
  if fits id then .keyError (what ++ toString id) else tooLarge

theorem fetch_run (table : SerialTable ρ) (what : String) (id : Int) (s : Store) :
    (fetch table what id).run s =
      match table.get? id with
      | none => .error (missing what id) s
      | some row => .ok row s := by
  unfold fetch
  rw [EStateM.run_bind, bindId_run]
  cases hrow : table.get? id with
  | some row => rw [binds_row hrow]; rfl
  | none =>
    rw [binds, hrow]
    unfold missing
    cases fits id <;> rfl

end Ids

theorem version_run (s : Store) (id : Int) : (version id).run s =
    match s.find id with
    | none => .error (missing "no config_version " id) s
    | some v => .ok v s := by
  simp only [version, find, EStateM.run_bind, EStateM.run_get, fetch_run]
  cases s.configVersion.get? id <;> rfl

theorem version_run_ok {s : Store} {id : Int} {v : ConfigVersion} (h : s.find id = some v) :
    (version id).run s = .ok v s := by rw [version_run, h]

theorem desired_run (s : Store) (group : String) : (desired group).run s =
    match s.desiredState.get? group with
    | none => .ok none s
    | some id => match s.find id with
      | none => .error (missing "no config_version " id) s
      | some v => .ok (some v) s := by
  simp only [desired, EStateM.run_bind, EStateM.run_get]
  cases s.desiredState.get? group with
  | none => rfl
  | some id =>
    simp only [EStateM.run_bind, version_run]
    cases s.find id <;> rfl

theorem desired_eq_some_iff {s : Store} {group : String} {v : ConfigVersion} :
    (desired group).run s = .ok (some v) s ↔
      s.desiredState.get? group = some v.id ∧ s.find v.id = some v := by
  rw [desired_run]
  cases hp : s.desiredState.get? group with
  | none => simp
  | some id =>
    cases hf : s.find id with
    | none =>
      simp only [hf, reduceCtorEq, Option.some_inj, false_iff, not_and]
      rintro rfl
      simp [hf]
    | some w =>
      have hid := (find_eq_some_iff.mp hf).2
      constructor
      · intro h
        simp only [hf] at h
        cases h
        exact ⟨congrArg some hid.symm, hid ▸ hf⟩
      · rintro ⟨⟨⟩, hv⟩
        simp only [hv]

theorem pointer_of_desired {s : Store} {group : String} {d : Option ConfigVersion}
    (h : (desired group).run s = .ok d s) : s.desiredState.get? group = d.map (·.id) := by
  cases d with
  | some v => exact (desired_eq_some_iff.mp h).1
  | none =>
    rw [desired_run] at h
    cases hp : s.desiredState.get? group with
    | none => rfl
    | some id =>
      simp only [hp] at h
      cases hf : s.find id <;> simp only [hf] at h <;> cases h

theorem desired_reads (s : Store) (group : String) :
    (∃ v, (desired group).run s = .ok v s) ∨ ∃ e, (desired group).run s = .error e s := by
  rw [desired_run]
  split
  · exact .inl ⟨_, rfl⟩
  · split
    · exact .inr ⟨_, rfl⟩
    · exact .inl ⟨_, rfl⟩

theorem desiredFor_run (s : Store) (replicaId group : String) : (desiredFor replicaId group).run s =
    match s.replicaOverride.get? replicaId with
    | none => (desired group).run s
    | some o => match s.find o.versionId with
      | none => .error (missing "no config_version " o.versionId) s
      | some v => .ok (some v) s := by
  simp only [desiredFor, EStateM.run_bind, EStateM.run_get]
  cases s.replicaOverride.get? replicaId with
  | none => rfl
  | some o =>
    simp only [EStateM.run_bind, version_run]
    cases s.find o.versionId <;> rfl

/-- A version that is read is the one on record, and reading it changes nothing. -/
theorem desired_found {s t : Store} {group : String} {v : ConfigVersion}
    (h : (desired group).run s = .ok (some v) t) : t = s ∧ s.find v.id = some v := by
  rw [desired_run] at h
  split at h
  · cases h
  · split at h
    · cases h
    · rename_i v' hv
      cases h
      exact ⟨rfl, (find_eq_some_iff.mp hv).2 ▸ hv⟩

theorem desiredFor_found {s t : Store} {replicaId group : String} {v : ConfigVersion}
    (h : (desiredFor replicaId group).run s = .ok (some v) t) : t = s ∧ s.find v.id = some v := by
  rw [desiredFor_run] at h
  split at h
  · exact desired_found h
  · split at h
    · cases h
    · rename_i v' hv
      cases h
      exact ⟨rfl, (find_eq_some_iff.mp hv).2 ▸ hv⟩

theorem desiredFor_reads (s : Store) (replicaId group : String) :
    (∃ v, (desiredFor replicaId group).run s = .ok v s) ∨
      ∃ e, (desiredFor replicaId group).run s = .error e s := by
  rw [desiredFor_run]
  split
  · exact desired_reads s group
  · split
    · exact .inr ⟨_, rfl⟩
    · exact .inl ⟨_, rfl⟩

theorem final_version (id : Int) (s : Store) : Effects.final (version id) s = s := by
  unfold Effects.final
  rw [version_run]
  cases s.find id <;> rfl

theorem final_desired (group : String) (s : Store) : Effects.final (desired group) s = s := by
  rcases desired_reads s group with ⟨d, hd⟩ | ⟨e, he⟩
  · exact Effects.final_of_ok hd
  · exact Effects.final_of_error he

theorem final_desiredFor (replicaId group : String) (s : Store) :
    Effects.final (desiredFor replicaId group) s = s := by
  rcases desiredFor_reads s replicaId group with ⟨d, hd⟩ | ⟨e, he⟩
  · exact Effects.final_of_ok hd
  · exact Effects.final_of_error he

theorem promote_run (s : Store) (group : String) (id : Int) : (promote group id).run s =
    match s.find id with
    | none => .error (missing "no config_version " id) s
    | some v =>
      if v.replicaGroup = group then
        .ok () { s with desiredState := s.desiredState.insert group id }
      else .error (.valueError ("version " ++ toString id ++ " belongs to group " ++
        pyRepr v.replicaGroup ++ ", not " ++ pyRepr group)) s := by
  simp only [promote, EStateM.run_bind, version_run]
  cases s.find id with
  | none => rfl
  | some v =>
    by_cases hg : v.replicaGroup = group
    · simp [hg]
    · simp [hg]

theorem promote_found {s : Store} {group : String} {id : Int} {v : ConfigVersion}
    (hv : s.find id = some v) (hg : v.replicaGroup = group) :
    (promote group id).run s =
      .ok () { s with desiredState := s.desiredState.insert group id } := by
  rw [promote_run, hv]
  exact if_pos hg

theorem version_inserted (s : Store) (row : VersionRow) :
    (version s.configVersion.nextId).run { s with configVersion := s.configVersion.insert row } =
      .ok ⟨row, s.configVersion.nextId⟩
        { s with configVersion := s.configVersion.insert row } :=
  version_run_ok (find_eq_some_iff.mpr ⟨SerialTable.get?_insert_self _ _, rfl⟩)

theorem propose_run (s : Store) (group : String) (fields : Fields) (createdBy reason : String) :
    (propose group fields createdBy reason).run s =
      match (desired group).run s with
      | .error e _ => .error e s
      | .ok parent _ =>
        .ok ⟨⟨group, parent.map (·.id), fields.stored, createdBy, reason⟩, s.configVersion.nextId⟩
          { s with
            configVersion := s.configVersion.insert
              ⟨group, parent.map (·.id), fields.stored, createdBy, reason⟩ } := by
  unfold propose
  simp only [EStateM.run_bind]
  rcases desired_reads s group with ⟨parent, hp⟩ | ⟨e, he⟩
  · simp only [hp, EStateM.run_get, EStateM.run_modify]
    exact version_inserted s _
  · simp only [he]

theorem openCanary_run (s : Store) (group : String) (candidateId : Int) (scope : List String)
    (gates : List Gate) (windowS : Rat) :
    (openCanary group candidateId scope gates windowS).run s =
      match (desired group).run s with
      | .error e _ => .error e s
      | .ok base _ =>
        if binds s.configVersion candidateId then
          .ok s.canaryTable.nextId { s with
            canaryTable := s.canaryTable.insert
              ⟨group, candidateId, base.map (·.id), scope.insertionSort (· ≤ ·), gates, windowS,
                "observing", ""⟩ }
        else .error tooLarge s := by
  unfold openCanary
  simp only [EStateM.run_bind]
  rcases desired_reads s group with ⟨base, hb⟩ | ⟨e, he⟩
  · simp only [hb, EStateM.run_get, bindId_run]
    cases binds s.configVersion candidateId <;> rfl
  · simp only [he]

theorem canary_run (s : Store) (id : Int) : (canary id).run s =
    match s.canaryTable.get? id with
    | none => .error (missing "no canary " id) s
    | some row => .ok row s := by
  simp only [canary, EStateM.run_bind, EStateM.run_get, fetch_run]
  cases s.canaryTable.get? id <;> rfl

theorem final_canary (id : Int) (s : Store) : Effects.final (canary id) s = s := by
  unfold Effects.final
  rw [canary_run]
  cases s.canaryTable.get? id <;> rfl

theorem setOverrides_run (s : Store) (replicaIds : List String) (versionId canaryId : Int) :
    (setOverrides replicaIds versionId canaryId).run s =
      if replicaIds = [] ∨ (binds s.configVersion versionId ∧ binds s.canaryTable canaryId) then
        .ok () { s with
          replicaOverride := replicaIds.foldl (fun t r => t.insert r ⟨versionId, canaryId⟩)
            s.replicaOverride }
      else .error tooLarge s := by
  unfold setOverrides
  by_cases hnone : replicaIds = []
  · subst hnone
    rfl
  · simp only [ne_eq, hnone, not_false_eq_true, if_true, false_or, EStateM.run_bind, EStateM.run_get,
      bindId_run]
    cases binds s.configVersion versionId with
    | false => rfl
    | true =>
      simp only [if_true, true_and]
      cases binds s.canaryTable canaryId <;> rfl

/-- A statement with one id writes nothing when that does not bind. -/
theorem guarded_run {ρ : Type} (table : Store → SerialTable ρ) (id : Int) (write : Store → Store)
    (s : Store) : (do bindId (table (← get)) id; modify write : StoreM Unit).run s =
      if binds (table s) id then .ok () (write s) else .error tooLarge s := by
  rw [EStateM.run_bind, EStateM.run_get]
  change (bindId (table s) id >>= fun _ => modify write).run s = _
  rw [EStateM.run_bind, bindId_run]
  cases binds (table s) id <;> rfl

theorem clearOverrides_run (s : Store) (canaryId : Int) : (clearOverrides canaryId).run s =
    if binds s.canaryTable canaryId then
      .ok () { s with
        replicaOverride := s.replicaOverride.filter fun _ o => o.canaryId ≠ canaryId }
    else .error tooLarge s := guarded_run (·.canaryTable) canaryId _ s

theorem closeCanary_run (s : Store) (canaryId : Int) (status decision : String) :
    (closeCanary canaryId status decision).run s =
      if binds s.canaryTable canaryId then
        .ok () { s with
          canaryTable := s.canaryTable.modify canaryId fun row =>
            { row with status := status, decision := decision } }
      else .error tooLarge s := guarded_run (·.canaryTable) canaryId _ s

theorem recordStatusOf_run (s : Store) (replicaId group : String) (applied : Option Int)
    (state detail : String) : (recordStatusOf replicaId group applied state detail).run s =
      if applied.all (binds s.configVersion) then
        (recordStatus replicaId group applied state detail).run s
      else .error tooLarge s := by
  unfold recordStatusOf
  cases applied with
  | none => rfl
  | some id =>
    simp only [EStateM.run_bind, EStateM.run_get, bindId_run, Option.all_some]
    by_cases hbinds : binds s.configVersion id = true
    · rw [if_pos hbinds, if_pos hbinds]
    · rw [if_neg hbinds, if_neg hbinds]

/-! A statement that does not bind its ids leaves the store as it was. -/

theorem setOverrides_final (s : Store) (replicaIds : List String) (versionId canaryId : Int) :
    Effects.final (setOverrides replicaIds versionId canaryId) s = s ∨
      Effects.final (setOverrides replicaIds versionId canaryId) s = { s with
        replicaOverride := replicaIds.foldl (fun t r => t.insert r ⟨versionId, canaryId⟩)
          s.replicaOverride } := by
  unfold Effects.final
  rw [setOverrides_run]
  by_cases hbinds : replicaIds = [] ∨ (binds s.configVersion versionId ∧ binds s.canaryTable canaryId)
  · rw [if_pos hbinds]
    exact .inr rfl
  · rw [if_neg hbinds]
    exact .inl rfl

theorem openCanary_final (s : Store) (group : String) (candidateId : Int) (scope : List String)
    (gates : List Gate) (windowS : Rat) :
    Effects.final (openCanary group candidateId scope gates windowS) s = s ∨
      ∃ base, (desired group).run s = .ok base s ∧
        Effects.final (openCanary group candidateId scope gates windowS) s = { s with
          canaryTable := s.canaryTable.insert
            ⟨group, candidateId, base.map (·.id), scope.insertionSort (· ≤ ·), gates, windowS,
              "observing", ""⟩ } := by
  have hrun := openCanary_run s group candidateId scope gates windowS
  rcases desired_reads s group with ⟨base, hb⟩ | ⟨e, he⟩
  · rw [hb] at hrun
    dsimp only at hrun
    split at hrun
    · exact .inr ⟨base, hb, Effects.final_of_ok hrun⟩
    · exact .inl (Effects.final_of_error hrun)
  · rw [he] at hrun
    exact .inl (Effects.final_of_error hrun)

theorem clearOverrides_final (s : Store) (canaryId : Int) :
    Effects.final (clearOverrides canaryId) s = s ∨
      Effects.final (clearOverrides canaryId) s = { s with
        replicaOverride := s.replicaOverride.filter fun _ o => o.canaryId ≠ canaryId } := by
  unfold Effects.final
  rw [clearOverrides_run]
  cases binds s.canaryTable canaryId with
  | true => exact .inr rfl
  | false => exact .inl rfl

theorem closeCanary_final (s : Store) (canaryId : Int) (status decision : String) :
    Effects.final (closeCanary canaryId status decision) s = { s with
      canaryTable := s.canaryTable.modify canaryId fun row =>
        { row with status := status, decision := decision } } := by
  unfold Effects.final
  rw [closeCanary_run]
  cases hbinds : binds s.canaryTable canaryId with
  | true => rfl
  | false =>
    have hnone : s.canaryTable.get? canaryId = none := by
      rw [binds, Bool.or_eq_false_iff, Option.isSome_eq_false_iff, Option.isNone_iff_eq_none] at hbinds
      exact hbinds.2
    rw [SerialTable.modify_of_get?_eq_none hnone]
    rfl

theorem mapM_version_run {s : Store} (rs : List (Int × VersionRow))
    (h : ∀ r ∈ rs, s.configVersion.get? r.1 = some r.2) :
    (rs.mapM fun r => version r.1).run s = .ok (rs.map fun r => ⟨r.2, r.1⟩) s := by
  induction rs with
  | nil => rfl
  | cons r rs ih =>
    have hr : s.find r.1 = some ⟨r.2, r.1⟩ := find_eq_some_iff.mpr ⟨h r List.mem_cons_self, rfl⟩
    have ht := ih fun q hq => h q (List.mem_cons_of_mem _ hq)
    simp only [List.mapM_cons, EStateM.run_bind, version_run_ok hr, ht]
    rfl

theorem versions_run (s : Store) (group : String) : (versions group).run s =
    .ok ((s.configVersion.rows.filter fun r => r.2.replicaGroup = group).map fun r => ⟨r.2, r.1⟩)
      s := by
  simp only [versions, EStateM.run_bind, EStateM.run_get]
  apply mapM_version_run
  intro r hr
  exact SerialTable.get?_eq_some_iff.mpr (List.mem_filter.mp hr).1

theorem status_run (s : Store) (group : String) : (status group).run s =
    .ok ((s.replicaStatus.entries.filter fun r => r.2.replicaGroup = group).insertionSort
      fun a b => a.1 ≤ b.1) s := rfl

/-! ## What a loop reads and writes -/

def target (s : Store) (replicaId group : String) : Option ConfigVersion :=
  (Effects.value? (desiredFor replicaId group) s).join

theorem target_eq_some {s : Store} {replicaId group : String} {v : ConfigVersion} :
    s.target replicaId group = some v ↔ (desiredFor replicaId group).run s = .ok (some v) s := by
  rcases desiredFor_reads s replicaId group with ⟨w, hw⟩ | ⟨e, he⟩
  · cases w <;> simp [target, Effects.value?, hw]
  · simp [target, Effects.value?, he]

theorem find_target {s : Store} {replicaId group : String} {v : ConfigVersion}
    (h : s.target replicaId group = some v) : s.find v.id = some v :=
  (desiredFor_found (target_eq_some.mp h)).2

/-- The stores differ in the status they report, and in nothing that a loop reads. -/
def Reports (s t : Store) : Prop := ∃ status, t = { s with replicaStatus := status }

theorem reports_refl (s : Store) : Reports s s := ⟨s.replicaStatus, rfl⟩

theorem reports_trans {s t u : Store} (h : Reports s t) (h' : Reports t u) : Reports s u := by
  obtain ⟨_, rfl⟩ := h
  obtain ⟨status, rfl⟩ := h'
  exact ⟨status, rfl⟩

theorem find_of_reports {s t : Store} (h : Reports s t) (id : Int) : t.find id = s.find id := by
  obtain ⟨status, rfl⟩ := h
  rfl

def recorded (s : Store) (replicaId group : String) (applied : Option Int) (state detail : String) :
    Store :=
  { s with replicaStatus := s.replicaStatus.insert replicaId ⟨group, applied, state, detail⟩ }

/-- The last report of a replica is the one that counts. -/
theorem recorded_recorded (s : Store) (replicaId group group' : String)
    (applied applied' : Option Int) (state state' detail detail' : String) :
    (s.recorded replicaId group applied state detail).recorded replicaId group' applied' state'
      detail' = s.recorded replicaId group' applied' state' detail' := by
  simp only [recorded, Dict.insert_insert]

theorem reports_recorded (s : Store) (replicaId group : String) (applied : Option Int)
    (state detail : String) : Reports s (s.recorded replicaId group applied state detail) :=
  ⟨_, rfl⟩

end Store
end Trimtab
