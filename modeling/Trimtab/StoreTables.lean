import Trimtab.RemoteStore
import Trimtab.ServerRequests

set_option autoImplicit false

/-!
# The tables that a store is

What the methods do on values of any type is what the store does, for texts that are UTF-8 and
numbers that a statement can hold.
-/
namespace Trimtab.SqlStore
open PyText Effects Runs

/-! ## Rows -/

def versionRow (row : Trimtab.VersionRow) : VersionRow where
  replicaGroup := row.replicaGroup
  parentId := row.parentId
  fields := .dict row.fields.entries
  createdBy := row.createdBy
  reason := row.reason

def configVersion (v : Trimtab.ConfigVersion) : ConfigVersion := ⟨versionRow v.toVersionRow, v.id⟩

def overrideRow (row : Trimtab.OverrideRow) : OverrideRow := ⟨row.versionId, row.canaryId⟩

def canaryRow (row : Trimtab.CanaryRow) : CanaryRow where
  replicaGroup := row.replicaGroup
  candidateVersionId := row.candidateVersionId
  baselineVersionId := row.baselineVersionId
  scope := .list (row.scope.map .str)
  gates := .list (row.gates.map fun g => .dict g.entries)
  windowS := .fin row.windowS
  status := row.status
  decision := row.decision

def idValue : Option Int → SqlValue
  | some n => .int n
  | none => .null

def statusRow (row : Trimtab.StatusRow) : StatusRow where
  replicaGroup := row.replicaGroup
  appliedVersionId := idValue row.appliedVersionId
  state := row.state
  detail := row.detail

def tables (s : Store) : Tables where
  configVersion := s.configVersion.map versionRow
  desiredState := s.desiredState
  replicaOverride := ⟨s.replicaOverride.mapValues overrideRow, []⟩
  canaryTable := s.canaryTable.map canaryRow
  replicaStatus := ⟨s.replicaStatus.mapValues statusRow, []⟩

/-! ## What a statement takes as it is -/

section Bindable

variable (P : Platform)

structure Library : Prop where
  sorted : ∀ ts : List String,
    P.sorted (ts.map .str) = .ok ((ts.insertionSort (· ≤ ·)).map .str)
  integers : ∀ n, P.integerAffinity (idValue n) = idValue n

def Utf8 (t : String) : Prop := P.encodeError t = none

def Fits (n : Int) : Prop := fits n = true

variable {P}

theorem bind_str {t : String} (h : Utf8 P t) : bind P (.str t) = .ok (.text t) := by
  simp only [bind]
  rw [h]

theorem bind_int {n : Int} (h : Fits n) : bind P (.int n) = .ok (.int n) := if_pos h

theorem bind_id {n : Option Int} (h : ∀ m ∈ n, Fits m) :
    bind P (intOrNull n) = .ok (idValue n) := by
  cases n with
  | none => rfl
  | some m => exact bind_int (h m rfl)

/-- What every number that is read back from a row has to be. -/
structure Ranged (s : Store) : Prop where
  versions : Fits s.configVersion.seq
  pointers : ∀ group n, s.desiredState.get? group = some n → Fits n
  overrides : ∀ r o, s.replicaOverride.get? r = some o → Fits o.versionId

theorem fits_of_issued {s : Store} (hs : Ranged s) {n : Int} {row : Trimtab.VersionRow}
    (h : s.configVersion.get? n = some row) : Fits n := by
  have hn := SerialTable.issued_of_get? h
  have hseq := hs.versions
  unfold SerialTable.nextId at hn
  simp only [Fits, fits, Bool.and_eq_true, decide_eq_true_eq] at hseq ⊢
  omega

end Bindable

/-! ## One method after the other -/

section Methods

variable {P : Platform} {s : Store} {α β : Type}

/-- From `s` the program on the tables does what the program on the store does. -/
abbrev Follows (val : α → β) (s : Store) (x : StoreM α) (y : TablesM β) : Prop :=
  Mirrors tables Fault.python val s x y

theorem follows_param {v : Json} {w : SqlValue} (hw : bind P v = .ok w) {val : α → β}
    {x : StoreM α} {g : SqlValue → TablesM β} (h : Follows val s x (g w)) :
    Follows val s x (param P v >>= g) := mirrors_passed hw h

theorem follows_text {column t : String} {val : α → β} {x : StoreM α} {g : String → TablesM β}
    (h : Follows val s x (g t)) :
    Follows val s x (textColumn P column (.text t) >>= g) := mirrors_passed rfl h

theorem binds_fits {ρ : Type} (table : SerialTable ρ) {n : Int} (hn : Fits n) :
    Store.binds table n = true := by
  rw [Store.binds, hn, Bool.true_or]

theorem bindId_fits {ρ : Type} (table : SerialTable ρ) {n : Int} (hn : Fits n) :
    (Store.bindId table n).run s = .ok () s := by
  rw [Store.bindId_run, if_pos (binds_fits table hn)]

/-- The lookup of a row by an id that binds. -/
theorem follows_fetch {ρ : Type} {table : SerialTable ρ} {n : Int} (hn : Fits n)
    (what : String) {val : α → β} {f : ρ → StoreM α} {y : TablesM β}
    (hnone : table.get? n = none → y = throw (.python (.keyError (what ++ toString n))))
    (hsome : ∀ row, table.get? n = some row → Follows val s (f row) y) :
    Follows val s (Store.fetch table what n >>= f) y := by
  unfold Store.fetch
  rw [bind_assoc]
  refine mirrors_passed_left (bindId_fits table hn) ?_
  cases hrow : table.get? n with
  | none =>
    rw [hnone hrow]
    exact mirrors_throw rfl
  | some row => exact hsome row hrow

theorem follows_version {n : Int} (hn : Fits n) :
    Follows configVersion s (Store.version n) (version P n) := by
  refine follows_param (bind_int hn) (mirrors_get_bind ?_)
  simp only [SqlStore.tables, SerialTable.get?_map]
  refine follows_fetch hn "no config_version " (fun hrow => ?_) fun row hrow => ?_
  · rw [hrow]
    rfl
  · rw [hrow]
    rfl

theorem follows_some_version {n : Int} (hn : Fits n) :
    Follows (Option.map configVersion) s (do return some (← Store.version n))
      (do return some (← version P n)) := mirrors_map (follows_version hn) fun _ => rfl

theorem follows_desired (hs : Ranged s) {group : String} (hg : Utf8 P group) :
    Follows (Option.map configVersion) s (Store.desired group) (desired P (.str group)) := by
  refine follows_param (bind_str hg) (mirrors_get_bind ?_)
  have hkey : (SqlValue.asText P (.text group)).bind s.desiredState.get? =
      s.desiredState.get? group := rfl
  simp only [SqlStore.tables, hkey]
  cases hn : s.desiredState.get? group with
  | none => rfl
  | some n => exact follows_some_version (hs.pointers group n hn)

theorem follows_desiredFor (hs : Ranged s) {replicaId group : String} (hr : Utf8 P replicaId)
    (hg : Utf8 P group) : Follows (Option.map configVersion) s
      (Store.desiredFor replicaId group) (desiredFor P (.str replicaId) (.str group)) := by
  refine follows_param (bind_str hr) (mirrors_get_bind ?_)
  have hkey : (SqlValue.asText P (.text replicaId)).bind
      (s.replicaOverride.mapValues overrideRow).get? =
      (s.replicaOverride.get? replicaId).map overrideRow := Dict.get?_mapValues ..
  simp only [SqlStore.tables, hkey]
  cases ho : s.replicaOverride.get? replicaId with
  | none => exact follows_desired hs hg
  | some o => exact follows_some_version (hs.overrides replicaId o ho)

theorem follows_promote {group : String} {n : Int} (hg : Utf8 P group) (hn : Fits n) :
    Follows id s (Store.promote group n) (promote P (.str group) n) := by
  refine mirrors_bind (follows_version hn) fun v t _ => ?_
  by_cases hv : v.replicaGroup = group
  · have hrow : Json.str (configVersion v).replicaGroup = .str group := congrArg Json.str hv
    simp only [hv, ne_eq, not_true_eq_false, if_false, hrow]
    refine follows_param (bind_str hg) (mirrors_modify ?_)
    change { tables t with desiredState := t.desiredState.insert v.replicaGroup n } = _
    rw [hv]
    rfl
  · have hrow : Json.str (configVersion v).replicaGroup ≠ .str group := fun h => hv (Json.str.inj h)
    simp only [hv, ne_eq, not_false_eq_true, if_true, hrow]
    exact mirrors_throw rfl

theorem stored_entries (fields : Fields) :
    Json.dict fields.stored.entries = (Json.dict fields.entries).sortKeys := by
  have hmembers : ∀ kvs : List (String × Json), Json.sortKeysMembers kvs =
      kvs.filterMap fun e => (some e.2.sortKeys).map (Prod.mk e.1) := by
    intro kvs
    induction kvs with
    | nil => rfl
    | cons p kvs ih =>
      rw [Json.sortKeysMembers, ih]
      rfl
  rw [Json.sortKeys, hmembers]
  rfl

theorem follows_propose (hs : Ranged s) {group createdBy reason : String} (hg : Utf8 P group)
    (hc : Utf8 P createdBy) (hr : Utf8 P reason) (hnew : Fits s.configVersion.nextId)
    (fields : Fields) : Follows configVersion s (Store.propose group fields createdBy reason)
      (propose P (.str group) (.dict fields.entries) (.str createdBy) (.str reason)) := by
  refine mirrors_bind (follows_desired hs hg) fun parent t hparent => ?_
  rcases Store.desired_reads s group with ⟨d, hd⟩ | ⟨e, he⟩
  · rw [hd] at hparent
    cases hparent
    have hid : ∀ m ∈ parent.map (·.id), Fits m := by
      intro m hm
      rw [← Store.pointer_of_desired hd] at hm
      exact hs.pointers group m hm
    have hparentId : (parent.map configVersion).map (·.id) = parent.map (·.id) := by
      cases parent <;> rfl
    rw [hparentId]
    refine follows_param (bind_str hg) (follows_param (bind_id hid) ?_)
    refine follows_param (bind_str hc) (follows_param (bind_str hr) ?_)
    refine follows_text (follows_text (follows_text (mirrors_get_bind ?_)))
    refine mirrors_bind (mirrors_modify ?_) fun _ _ _ => follows_version hnew
    simp only [tables, SerialTable.map_insert, versionRow, stored_entries]
  · rw [he] at hparent
    cases hparent

theorem follows_setOverrides {replicaIds : List String} {versionId canaryId : Int}
    (hr : ∀ r ∈ replicaIds, Utf8 P r) (hv : Fits versionId) (hc : Fits canaryId) :
    Follows id s (Store.setOverrides replicaIds versionId canaryId)
      (setOverrides P (.list (replicaIds.map .str)) versionId canaryId) := by
  refine mirrors_passed rfl ?_
  unfold Mirrors
  rw [Store.setOverrides_run, if_pos (.inr ⟨binds_fits _ hv, binds_fits _ hc⟩)]
  change ((replicaIds.map Json.str).forM (setOverride P versionId canaryId)).run (tables s) =
    .ok ⟨⟩ (tables { s with
      replicaOverride := replicaIds.foldl (fun t r => t.insert r ⟨versionId, canaryId⟩)
        s.replicaOverride })
  induction replicaIds generalizing s with
  | nil => rfl
  | cons r rs ih =>
    have hstep : (setOverride P versionId canaryId (.str r)).run (tables s) =
        .ok ⟨⟩ (tables { s with
          replicaOverride := s.replicaOverride.insert r ⟨versionId, canaryId⟩ }) := by
      unfold setOverride param
      rw [bind_str (hr r List.mem_cons_self), bind_int hv, bind_int hc]
      change EStateM.Result.ok _ { tables s with replicaOverride :=
        ⟨(s.replicaOverride.mapValues overrideRow).insert r ⟨versionId, canaryId⟩, []⟩ } = _
      simp only [tables, Dict.mapValues_insert, overrideRow]
    rw [List.map_cons]
    change (setOverride P versionId canaryId (.str r) >>= fun _ =>
      (rs.map Json.str).forM (setOverride P versionId canaryId)).run (tables s) = _
    rw [EStateM.run_bind, hstep]
    exact ih fun r' hr' => hr r' (List.mem_cons_of_mem r hr')

theorem follows_clearOverrides {canaryId : Int} (hc : Fits canaryId) :
    Follows id s (Store.clearOverrides canaryId) (clearOverrides P canaryId) := by
  refine follows_param (bind_int hc) ?_
  refine mirrors_get_left (mirrors_passed_left (bindId_fits _ hc) (mirrors_modify ?_))
  simp only [tables, List.filter_nil]
  have hrows := Dict.mapValues_filter overrideRow s.replicaOverride
    (p := fun _ o => o.canaryId ≠ canaryId) (q := fun _ o => o.canaryId ≠ canaryId) fun _ _ => rfl
  rw [hrows]

theorem follows_openCanary (hP : Library P) (hs : Ranged s) {group : String} (hg : Utf8 P group)
    {candidateId : Int} (hn : Fits candidateId) (scope : List String) (gates : List Gate)
    (windowS : Rat) : Follows id s (Store.openCanary group candidateId scope gates windowS)
      (openCanary P (.str group) candidateId (.list (scope.map .str))
        (.list (gates.map fun g => .dict g.entries)) (.fin windowS)) := by
  refine mirrors_bind (follows_desired hs hg) fun base t hbase => ?_
  rcases Store.desired_reads s group with ⟨d, hd⟩ | ⟨e, he⟩
  · rw [hd] at hbase
    cases hbase
    have hid : ∀ m ∈ base.map (·.id), Fits m := by
      intro m hm
      rw [← Store.pointer_of_desired hd] at hm
      exact hs.pointers group m hm
    have hbaseId : (base.map configVersion).map (·.id) = base.map (·.id) := by
      cases base <;> rfl
    rw [hbaseId]
    refine mirrors_passed rfl (mirrors_passed (congrArg python (hP.sorted scope)) ?_)
    refine follows_param (bind_str hg) (follows_param (bind_int hn) ?_)
    refine follows_param (bind_id hid) (follows_param rfl (follows_text ?_))
    refine mirrors_passed rfl (mirrors_get_left (mirrors_passed_left (bindId_fits _ hn) ?_))
    refine mirrors_get_bind (mirrors_bind (mirrors_modify ?_) fun _ _ _ => rfl)
    simp only [tables, SerialTable.map_insert, canaryRow]
  · rw [he] at hbase
    cases hbase

theorem follows_canary {canaryId : Int} (hn : Fits canaryId) :
    Follows canaryRow s (Store.canary canaryId) (canary P canaryId) := by
  refine follows_param (bind_int hn) (mirrors_get_bind ?_)
  simp only [SqlStore.tables, SerialTable.get?_map]
  rw [← bind_pure (Store.fetch _ _ _)]
  refine follows_fetch hn "no canary " (fun hrow => ?_) fun row hrow => ?_
  · rw [hrow]
    rfl
  · rw [hrow]
    rfl

theorem follows_closeCanary {canaryId : Int} {status decision : String} (hn : Fits canaryId)
    (hst : Utf8 P status) (hd : Utf8 P decision) :
    Follows id s (Store.closeCanary canaryId status decision)
      (closeCanary P canaryId (.str status) (.str decision)) := by
  refine follows_param (bind_str hst) (follows_param (bind_str hd) ?_)
  refine follows_param (bind_int hn) (mirrors_get_right ?_)
  refine mirrors_get_left (mirrors_passed_left (bindId_fits _ hn) ?_)
  by_cases hrow : ((tables s).canaryTable.get? canaryId).isSome = true
  · rw [if_pos hrow]
    refine follows_text (follows_text (mirrors_modify ?_))
    simp only [tables]
    rw [SerialTable.map_modify]
    exact fun _ => rfl
  · rw [if_neg hrow]
    have hnone : s.canaryTable.get? canaryId = none := by
      simpa [tables] using hrow
    change EStateM.Result.ok _ (tables s) = .ok _ (tables { s with canaryTable := _ })
    rw [SerialTable.modify_of_get?_eq_none hnone]

theorem follows_versions (hs : Ranged s) {group : String} (hg : Utf8 P group) :
    Follows (List.map configVersion) s (Store.versions group) (versions P (.str group)) := by
  refine follows_param (bind_str hg) (mirrors_get_bind ?_)
  have hrows : ((tables s).configVersion.rows.filter fun r =>
      some r.2.replicaGroup = (SqlValue.text group).asText P) =
        (s.configVersion.rows.filter fun r => r.2.replicaGroup = group).map
          fun r => (r.1, versionRow r.2) := by
    change List.filter _ (List.map _ _) = _
    rw [List.filter_map]
    refine congrArg _ (List.filter_congr fun r _ => ?_)
    simp [SqlValue.asText, versionRow]
  rw [hrows]
  refine mirrors_mapM (fun r hr => ?_) fun r _ => Store.final_version r.1 s
  exact follows_version (fits_of_issued hs (SerialTable.get?_eq_some_iff.mpr (List.mem_filter.mp hr).1))

theorem follows_recordStatus (hP : Library P) {replicaId group state detail : String}
    {applied : Option Int} (hr : Utf8 P replicaId) (hg : Utf8 P group) (hst : Utf8 P state)
    (hd : Utf8 P detail) (ha : ∀ n ∈ applied, Fits n) :
    Follows id s (Store.recordStatusOf replicaId group applied state detail)
      (recordStatus P (.str replicaId) (.str group) (intOrNull applied) (.str state)
        (.str detail)) := by
  refine follows_param (bind_str hr) (follows_param (bind_str hg) ?_)
  refine follows_param (bind_id ha) (follows_param (bind_str hst) ?_)
  refine follows_param (bind_str hd) (follows_text (follows_text (follows_text ?_)))
  have hbinds : applied.all (Store.binds s.configVersion) = true := by
    cases applied with
    | none => rfl
    | some n => exact binds_fits _ (ha n rfl)
  have hrun : (Store.recordStatusOf replicaId group applied state detail).run s =
      (Store.recordStatus replicaId group applied state detail).run s := by
    rw [Store.recordStatusOf_run, if_pos hbinds]
  refine mirrors_of_run_eq hrun (mirrors_modify ?_)
  rw [hP.integers]
  simp only [tables, Dict.mapValues_insert, statusRow]
  rfl

theorem follows_status {group : String} (hg : Utf8 P group) :
    Follows (List.map fun r => (some r.1, statusRow r.2)) s (Store.status group)
      (status P (.str group)) := by
  refine follows_param (bind_str hg) (mirrors_get_bind (mirrors_pure ?_))
  have hrows : ((s.replicaStatus.mapValues statusRow).entries.filter fun r =>
      some r.2.replicaGroup = (SqlValue.text group).asText P) =
        (s.replicaStatus.entries.filter fun r => r.2.replicaGroup = group).map
          fun r => (r.1, statusRow r.2) := by
    change List.filter _ (List.map _ _) = _
    rw [List.filter_map]
    refine congrArg _ (List.filter_congr fun r _ => ?_)
    simp [SqlValue.asText, statusRow]
  change List.map _ (List.insertionSort _
    (List.filter _ (s.replicaStatus.mapValues statusRow).entries)) = _
  have hsort := List.map_insertionSort (r := fun a b : String × Trimtab.StatusRow => a.1 ≤ b.1)
    (s := fun a b : String × StatusRow => a.1 ≤ b.1) (fun r => (r.1, statusRow r.2))
    (s.replicaStatus.entries.filter fun r => r.2.replicaGroup = group) fun _ _ _ _ => Iff.rfl
  rw [hrows, ← hsort, List.map_map]
  rfl

end Methods

end Trimtab.SqlStore
