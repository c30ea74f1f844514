import Trimtab.ServerAnswers

set_option autoImplicit false

/-!
# What comes of a request

Route by route, the first argument that is not fit decides: all are fit and the route returns, or
its exception is one that the handler answers with nothing written, or neither.
-/
namespace Trimtab.SqlStore.Handler
open PyText Effects Checks

section Readers

variable {P : Platform} {s : Tables}

/-! ### Methods that only read -/

def versionOf (P : Platform) (s : Tables) (n : Int) : Except Fault ConfigVersion := do
  let _ ← bind P (.int n)
  match s.configVersion.get? n with
  | none => .error (.python (.keyError ("no config_version " ++ toString n)))
  | some row => .ok ⟨row, n⟩

def desiredOf (P : Platform) (s : Tables) (group : Json) : Except Fault (Option ConfigVersion) := do
  let _ ← bind P group
  match (textOf P group).bind s.desiredState.get? with
  | none => .ok none
  | some n => return some (← versionOf P s n)

def desiredForOf (P : Platform) (s : Tables) (replica group : Json) :
    Except Fault (Option ConfigVersion) := do
  let _ ← bind P replica
  match (textOf P replica).bind s.replicaOverride.rows.get? with
  | none => desiredOf P s group
  | some o => return some (← versionOf P s o.versionId)

theorem reads_version (n : Int) : Reads (version P n) s (versionOf P s n) := by
  refine reads_bind (reads_ofExcept _ _) fun w _ => reads_get_bind ?_
  cases s.configVersion.get? n with
  | none => rfl
  | some row => rfl

theorem reads_some_version (n : Int) :
    Reads (do return some (← version P n)) s (do return some (← versionOf P s n)) :=
  reads_bind (reads_version n) fun _ _ => rfl

theorem reads_desired (group : Json) : Reads (desired P group) s (desiredOf P s group) := by
  refine reads_bind (reads_ofExcept _ _) fun w hw => reads_get_bind ?_
  rw [asText_of_bind hw]
  cases (textOf P group).bind s.desiredState.get? with
  | none => rfl
  | some n => exact reads_some_version n

theorem reads_desiredFor (replica group : Json) :
    Reads (desiredFor P replica group) s (desiredForOf P s replica group) := by
  refine reads_bind (reads_ofExcept _ _) fun w hw => reads_get_bind ?_
  rw [asText_of_bind hw]
  cases (textOf P replica).bind s.replicaOverride.rows.get? with
  | none => exact reads_desired group
  | some o => exact reads_some_version o.versionId

theorem judge_versionOf (n : Int) : judge answered (versionOf P s n) = found P s n := by
  refine judge_bind answered (judge_bind_param _) fun w _ => ?_
  cases s.configVersion.get? n <;> rfl

theorem judge_desiredOf (group : Json) :
    judge answered (desiredOf P s group) = pointed P s group := by
  refine judge_bind answered (judge_bind_param _) fun w _ => ?_
  cases (textOf P group).bind s.desiredState.get? with
  | none => rfl
  | some n => exact judge_map answered (judge_versionOf n) some

theorem judge_desiredForOf (replica group : Json) :
    judge answered (desiredForOf P s replica group) = overridden P s replica group := by
  refine judge_bind answered (judge_bind_param _) fun w _ => ?_
  cases (textOf P replica).bind s.replicaOverride.rows.get? with
  | none => exact judge_desiredOf group
  | some o => exact judge_map answered (judge_versionOf o.versionId) some

theorem versionOf_ok {n : Int} {v : ConfigVersion} (h : versionOf P s n = .ok v) :
    (∃ w, bind P (.int n) = .ok w) ∧ v.id = n ∧ s.configVersion.get? n = some v.toVersionRow := by
  obtain ⟨w, hw, h⟩ := ok_of_bind h
  refine ⟨⟨w, hw⟩, ?_⟩
  cases hrow : s.configVersion.get? n with
  | none =>
    rw [hrow] at h
    cases h
  | some row =>
    rw [hrow] at h
    cases h
    exact ⟨rfl, rfl⟩

/-- The id of a desired version can be bound again. -/
theorem desiredOf_ok {group : Json} {v : Option ConfigVersion} (h : desiredOf P s group = .ok v) :
    (∃ w, bind P group = .ok w) ∧ ∃ w, bind P (intOrNull (v.map (·.id))) = .ok w := by
  obtain ⟨w, hw, h⟩ := ok_of_bind h
  refine ⟨⟨w, hw⟩, ?_⟩
  cases hn : (textOf P group).bind s.desiredState.get? with
  | none =>
    rw [hn] at h
    cases h
    exact ⟨_, rfl⟩
  | some n =>
    rw [hn] at h
    obtain ⟨row, hrow, h⟩ := ok_of_bind h
    cases h
    obtain ⟨hbound, hid, -⟩ := versionOf_ok hrow
    rw [Option.map_some, hid]
    exact hbound

def copiedOrNull (P : Platform) : Option ConfigVersion → Verdict
  | none => .fine
  | some v => copied P v.fields

theorem copied_of_versionOf {n : Int} {v : ConfigVersion} (h : versionOf P s n = .ok v) :
    copiedVersion P s n = copied P v.fields := by
  rw [copiedVersion, (versionOf_ok h).2.2]

theorem copied_of_some_versionOf {n : Int} {v : Option ConfigVersion}
    (h : (do return some (← versionOf P s n)) = Except.ok v) :
    copiedVersion P s n = copiedOrNull P v := by
  obtain ⟨w, hw, h⟩ := ok_of_bind h
  cases h
  exact copied_of_versionOf hw

theorem copied_of_desiredOf {group : Json} {v : Option ConfigVersion}
    (h : desiredOf P s group = .ok v) : copiedDesired P s group = copiedOrNull P v := by
  obtain ⟨w, -, h⟩ := ok_of_bind h
  unfold copiedDesired
  cases hn : (textOf P group).bind s.desiredState.get? with
  | none =>
    rw [hn] at h
    cases h
    rfl
  | some n =>
    rw [hn] at h
    exact copied_of_some_versionOf h

theorem copied_of_desiredForOf {replica group : Json} {v : Option ConfigVersion}
    (h : desiredForOf P s replica group = .ok v) :
    copiedTarget P s replica group = copiedOrNull P v := by
  obtain ⟨w, -, h⟩ := ok_of_bind h
  unfold copiedTarget
  cases ho : (textOf P replica).bind s.replicaOverride.rows.get? with
  | none =>
    rw [ho] at h
    exact copied_of_desiredOf h
  | some o =>
    rw [ho] at h
    exact copied_of_some_versionOf h

def asdictOf (P : Platform) (v : ConfigVersion) : Except Fault Json :=
  if P.copies v.fields then .ok (versionDict v) else .error (.python Server.tooDeep)

theorem reads_asdict (v : ConfigVersion) : Reads (asdict P v) s (asdictOf P v) := by
  unfold asdict asdictOf
  split <;> rfl

theorem judge_asdictOf (v : ConfigVersion) : judge answered (asdictOf P v) = copied P v.fields := by
  unfold asdictOf copied
  split <;> rfl

/-- The rows are those of the table. -/
theorem versionsOf_ok {rows : List (Int × VersionRow)} {vs : List ConfigVersion}
    (hrows : ∀ r ∈ rows, s.configVersion.get? r.1 = some r.2)
    (h : (rows.mapM fun r => versionOf P s r.1) = .ok vs) :
    vs = rows.map fun r => ⟨r.2, r.1⟩ := by
  induction rows generalizing vs with
  | nil =>
    cases h
    rfl
  | cons r rows ih =>
    rw [List.mapM_cons] at h
    obtain ⟨v, hv, h⟩ := ok_of_bind h
    obtain ⟨ws, hws, h⟩ := ok_of_bind h
    cases h
    obtain ⟨-, hid, hrow⟩ := versionOf_ok hv
    have hsame := Option.some.inj (hrow.symm.trans (hrows r List.mem_cons_self))
    rw [ih (fun q hq => hrows q (List.mem_cons_of_mem r hq)) hws, List.map_cons, ← hsame, ← hid]

end Readers

/-! ## Routes -/

section Routes

variable {P : Platform} {s : Tables} {α β : Type}

abbrev outcomeAt (s : Tables) (x : TablesM α) : Verdict := outcome answered s (x.run s)

theorem outcome_param {v : Json} {f : SqlValue → TablesM α} {vs : List Verdict}
    (h : ∀ w, bind P v = .ok w → outcomeAt s (f w) = first vs) :
    outcomeAt s (param P v >>= f) = first (bound P v :: vs) :=
  outcome_check (reads_ofExcept _ _) (judge_bind_param v) h

theorem outcome_last_param {v : Json} {f : SqlValue → TablesM α}
    (h : ∀ w, bind P v = .ok w → outcomeAt s (f w) = .fine) :
    outcomeAt s (param P v >>= f) = first [bound P v] :=
  @outcome_param P s α v f [] h

theorem outcome_param_again {v : Json} {w : SqlValue} (hw : bind P v = .ok w)
    (f : SqlValue → TablesM α) : outcomeAt s (param P v >>= f) = outcomeAt s (f w) := by
  unfold param
  rw [hw]
  exact outcome_passed (reads_ofExcept _ _)

theorem outcome_textColumn {v : Json} {w : SqlValue} (hw : bind P v = .ok w) {column : String}
    {f : String → TablesM α} {vs : List Verdict} (h : ∀ t, outcomeAt s (f t) = first vs) :
    outcomeAt s (textColumn P column w >>= f) = first (nonNull v :: vs) :=
  outcome_check (reads_ofExcept _ _) (judge_notNull hw column) fun t _ => h t

theorem outcome_item {b : Json} {key : String} {f : Json → TablesM α} {vs : List Verdict}
    (h : (∃ kvs, b = .dict kvs) → outcomeAt s (f (arg b key)) = first vs) :
    outcomeAt s (ofExcept (item b key) >>= f) = first (given b key :: vs) := by
  refine outcome_check (reads_ofExcept _ _) (judge_item b key) fun v hv => ?_
  obtain ⟨hb, rfl⟩ := item_ok hv
  exact h hb

theorem outcome_getOr {b : Json} (hb : ∃ kvs, b = .dict kvs) (key : String) (dflt : Json)
    (f : Json → TablesM α) :
    outcomeAt s (ofExcept (getOr b key dflt) >>= f) = outcomeAt s (f (argOr b key dflt)) := by
  obtain ⟨kvs, rfl⟩ := hb
  rfl

theorem outcome_queryItem {q : List (String × String)} {key : String} {f : String → TablesM α}
    {vs : List Verdict} (h : outcomeAt s (f (queryArg q key)) = first vs) :
    outcomeAt s (ofExcept (queryItem q key) >>= f) = first (asked q key :: vs) := by
  refine outcome_check (reads_ofExcept _ _) (judge_queryItem q key) fun v hv => ?_
  rw [queryItem_ok hv]
  exact h

theorem outcome_toInt {v : Json} {f : Int → TablesM α} {vs : List Verdict}
    (h : outcomeAt s (f (num v)) = first vs) :
    outcomeAt s (ofExcept (toInt v) >>= f) = first (integral v :: vs) := by
  refine outcome_check (reads_ofExcept _ _) (judge_toInt v) fun n hn => ?_
  rw [toInt_ok hn]
  exact h

theorem outcome_desired {group : Json} {f : Option ConfigVersion → TablesM α} {vs : List Verdict}
    (h : ∀ v, desiredOf P s group = .ok v → outcomeAt s (f v) = first vs) :
    outcomeAt s (desired P group >>= f) = first (pointed P s group :: vs) :=
  outcome_check (reads_desired group) (judge_desiredOf group) h

/-! ### The methods that write -/

theorem bound_int_ne_refused (n : Int) : bound P (.int n) ≠ .refused := by
  simp only [bound]
  split_ifs <;> exact Verdict.noConfusion

theorem outcome_asdict (v : ConfigVersion) (t : Tables) :
    outcome answered s ((asdict P v).run t) = copied P v.fields := by
  unfold asdict copied
  split
  · rfl
  · have hunanswered : ¬(answered (.python Server.tooDeep) = true ∧ t = s) := by
      rintro ⟨h, -⟩
      cases h
    change outcome answered s (.error (.python Server.tooDeep) t) = _
    rw [outcome, if_neg hunanswered]

theorem outcome_versionOrNull (v : Option ConfigVersion) :
    outcomeAt s (versionOrNull P v) = copiedOrNull P v := by
  cases v with
  | none => rfl
  | some v => exact outcome_asdict v s

/-- A new row is read back, unless its id is past what can be bound. -/
theorem outcome_read_new {row : VersionRow} {t : Tables}
    (ht : t.configVersion = s.configVersion.insert row) :
    outcome answered s ((do asdict P (← version P s.configVersion.nextId)).run t) =
      first [bound P (.int s.configVersion.nextId), copied P row.fields] := by
  have hjudge : judge answered (versionOf P t s.configVersion.nextId) =
      bound P (.int s.configVersion.nextId) := by
    rw [judge_versionOf, found, ht, SerialTable.get?_insert_self]
    cases bound P (.int s.configVersion.nextId) <;> rfl
  rw [EStateM.run_bind, reads_version, ofExcept_run]
  cases hv : versionOf P t s.configVersion.nextId with
  | ok v =>
    rw [hv] at hjudge
    have hrow := (versionOf_ok hv).2.2
    rw [ht, SerialTable.get?_insert_self] at hrow
    rw [← hjudge, Option.some.inj hrow]
    exact (outcome_asdict v t).trans (first_singleton _).symm
  | error e =>
    rw [hv, judge] at hjudge
    have he : ¬answered e = true := by
      intro he
      rw [if_pos he] at hjudge
      exact bound_int_ne_refused _ hjudge.symm
    rw [if_neg he] at hjudge
    rw [← hjudge]
    exact if_neg fun h => he h.1

theorem outcome_propose (group fields createdBy reason : Json) :
    outcomeAt s (do asdict P (← propose P group fields createdBy reason)) =
      first (proposeVerdicts P s group fields createdBy reason) := by
  unfold propose proposeVerdicts
  simp only [bind_assoc]
  refine outcome_desired fun parent hparent => ?_
  obtain ⟨⟨g, hg⟩, p, hp⟩ := desiredOf_ok hparent
  rw [outcome_param_again hg, outcome_param_again hp]
  refine outcome_param fun c hc => outcome_param fun r hr => ?_
  refine outcome_textColumn hg fun gt => ?_
  refine outcome_textColumn hc fun ct => ?_
  refine outcome_textColumn hr fun rt => ?_
  exact @outcome_read_new P s ⟨gt, parent.map (·.id), fields.sortKeys, ct, rt⟩ _ rfl

theorem outcome_promote (group : Json) (n : Int) (a : α) :
    outcomeAt s (do
      promote P group n
      return a) = first [found P s n, ofGroup s n group, bound P group] := by
  unfold promote
  simp only [bind_assoc]
  refine outcome_check (reads_version n) (judge_versionOf n) fun v hv => ?_
  obtain ⟨-, rfl, hrow⟩ := versionOf_ok hv
  rw [ofGroup, hrow]
  by_cases hgroup : Json.str v.replicaGroup = group
  · simp only [hgroup, ne_eq, not_true_eq_false, if_true, if_false, first_fine, bind_assoc]
    exact outcome_last_param fun w _ => rfl
  · simp only [hgroup, ne_eq, not_false_eq_true, if_true, if_false, first_refused,
      throw_bind]
    exact outcome_reads (x := .error _) rfl

theorem outcome_closeCanary (n : Int) (status decision : Json) (a : α) :
    outcomeAt s (do
      closeCanary P n status decision
      return a) = first ([bound P status, bound P decision, bound P (.int n)] ++
        if (s.canaryTable.get? n).isSome then [nonNull status, nonNull decision] else []) := by
  unfold closeCanary
  simp only [bind_assoc]
  refine outcome_param fun st hst => outcome_param fun d hd => outcome_param fun w _ => ?_
  rw [outcomeAt, outcome_get_bind]
  by_cases hrow : (s.canaryTable.get? n).isSome = true
  · rw [if_pos hrow, if_pos hrow, bind_assoc]
    refine outcome_textColumn hst fun stText => ?_
    rw [bind_assoc]
    exact outcome_textColumn hd fun dText => rfl
  · rw [if_neg hrow, if_neg hrow]
    rfl

theorem outcome_recordStatus (replicaId group applied state detail : Json) (a : α) :
    outcomeAt s (do
      recordStatus P replicaId group applied state detail
      return a) = first [bound P replicaId, bound P group, bound P applied, bound P state,
        bound P detail, nonNull group, nonNull state, nonNull detail] := by
  unfold recordStatus
  simp only [bind_assoc]
  refine outcome_param fun r _ => outcome_param fun g hg => outcome_param fun v _ => ?_
  refine outcome_param fun st hst => outcome_param fun d hd => ?_
  refine outcome_textColumn hg fun gText => ?_
  refine outcome_textColumn hst fun stText => ?_
  exact outcome_textColumn hd fun dText => rfl

theorem judge_asReal {x : PyFloat} {w : SqlValue} (hw : bind P (.float x) = .ok w)
    (column : String) : judge answered (notNull column w.asReal) = nonNull (.float x) := by
  cases x <;> cases hw <;> rfl

theorem outcome_sorted {scope : Json} {f : List Json → TablesM α} {vs : List Verdict}
    (h : ∀ xs, outcomeAt s (f xs) = first vs) :
    outcomeAt s (do
      let xs ← ofExcept (iterate scope)
      let xs ← ofExcept (python (P.sorted xs))
      f xs) = first (sortable P scope :: vs) := by
  have hsort : outcomeAt s (do
      let xs ← ofExcept (iterate scope)
      let xs ← ofExcept (python (P.sorted xs))
      f xs) = first (iterable scope :: judge answered (python (P.sorted (items scope))) :: vs) := by
    refine outcome_check (reads_ofExcept _ _) (judge_iterate scope) fun xs hxs => ?_
    rw [iterate_ok hxs]
    exact outcome_check (reads_ofExcept _ _) rfl fun ys _ => h ys
  rw [hsort]
  exact first_append [iterable scope, judge answered (python (P.sorted (items scope)))] vs

theorem outcome_openCanary (group : Json) (n : Int) (scope gates : Json) (x : PyFloat)
    (f : Int → α) :
    outcomeAt s (do return f (← openCanary P group n scope gates x)) =
      first [pointed P s group, sortable P scope, bound P (.int n), nonNull group,
        nonNull (.float x)] := by
  unfold openCanary
  simp only [bind_assoc]
  refine outcome_desired fun base hbase => ?_
  obtain ⟨⟨g, hg⟩, b, hb⟩ := desiredOf_ok hbase
  refine outcome_sorted fun xs => ?_
  rw [outcome_param_again hg]
  refine outcome_param fun c _ => ?_
  rw [outcome_param_again hb]
  obtain ⟨w, hw⟩ : ∃ w, bind P (.float x) = .ok w := by
    cases x <;> exact ⟨_, rfl⟩
  rw [outcome_param_again hw]
  refine outcome_textColumn hg fun gText => ?_
  exact outcome_check (reads_ofExcept _ _) (judge_asReal hw _) fun y _ => rfl

theorem outcome_versions (group : Json) :
    outcomeAt s (do return Json.list (← (← versions P group).mapM (asdict P))) =
      first (bound P group :: (((s.configVersion.rows.filter fun r =>
        some r.2.replicaGroup = textOf P group).map fun r => found P s r.1) ++
          (s.configVersion.rows.filter fun r =>
            some r.2.replicaGroup = textOf P group).map fun r => copied P r.2.fields)) := by
  unfold versions
  simp only [bind_assoc]
  refine outcome_param fun w hw => ?_
  rw [outcomeAt, outcome_get_bind, asText_of_bind hw]
  generalize hrows : (s.configVersion.rows.filter fun r => some r.2.replicaGroup =
    textOf P group) = rows
  have hfound : ∀ r ∈ rows, s.configVersion.get? r.1 = some r.2 := by
    intro r hr
    exact SerialTable.get?_eq_some_iff.mpr (List.mem_filter.mp (hrows ▸ hr)).1
  have hreads : Reads (rows.mapM fun r => version P r.1) s (rows.mapM fun r => versionOf P s r.1) :=
    reads_mapM fun r _ => reads_version r.1
  rw [first_append]
  refine outcome_check hreads (judge_mapM answered fun r _ => judge_versionOf r.1) fun vs hvs => ?_
  rw [versionsOf_ok hfound hvs]
  refine (outcome_map _ _ s s).trans ?_
  rw [outcome_reads (reads_mapM fun v _ => reads_asdict v),
    judge_mapM answered fun v _ => judge_asdictOf v, List.map_map]
  rfl

/-! ### The loop over the replicas of an override -/

theorem upsert_none_length {ρ : Type} (t : Keyed ρ) (row : ρ) :
    (t.upsert none row).unnamed.length = t.unnamed.length + 1 := List.length_append

theorem foldl_upsert_kept {ρ : Type} (row : ρ) (keys : List (Option String)) {t : Keyed ρ}
    {k : String} (h : t.rows.get? k = some row) :
    (keys.foldl (fun t key => t.upsert key row) t).rows.get? k = some row := by
  induction keys generalizing t with
  | nil => exact h
  | cons key keys ih =>
    refine ih ?_
    cases key with
    | none => exact h
    | some j =>
      change (t.rows.insert j row).get? k = some row
      rw [Dict.get?_insert]
      split
      · rfl
      · exact h

theorem foldl_upsert_length {ρ : Type} (row : ρ) (keys : List (Option String)) (t : Keyed ρ) :
    t.unnamed.length ≤ (keys.foldl (fun t key => t.upsert key row) t).unnamed.length := by
  induction keys generalizing t with
  | nil => exact Nat.le_refl _
  | cons key keys ih =>
    refine Nat.le_trans ?_ (ih _)
    cases key with
    | none => exact upsert_none_length t row ▸ Nat.le_succ _
    | some j => exact Nat.le_refl _

/-- Rows written under the keys leave the table as it was when they were all there before. -/
theorem foldl_upsert_eq_self_iff {ρ : Type} (row : ρ) (keys : List (Option String))
    (t : Keyed ρ) : keys.foldl (fun t key => t.upsert key row) t = t ↔
      ∀ key ∈ keys, ∃ k, key = some k ∧ t.rows.get? k = some row := by
  constructor
  · intro hself key hkey
    obtain ⟨before, after, rfl⟩ := List.append_of_mem hkey
    rw [List.foldl_append, List.foldl_cons] at hself
    generalize hmid : before.foldl (fun t key => t.upsert key row) t = mid at hself
    cases key with
    | none =>
      have hlength := foldl_upsert_length row after (mid.upsert none row)
      have hbefore := foldl_upsert_length row before t
      rw [hself, upsert_none_length] at hlength
      rw [hmid] at hbefore
      omega
    | some k =>
      refine ⟨k, rfl, ?_⟩
      rw [← hself]
      exact foldl_upsert_kept row after (Dict.get?_insert_self mid.rows k row)
  · intro h
    induction keys with
    | nil => rfl
    | cons key keys ih =>
      obtain ⟨k, rfl, hk⟩ := h key List.mem_cons_self
      have hput : t.upsert (some k) row = t := by
        simp only [Keyed.upsert, Dict.insert_of_get? hk]
      rw [List.foldl_cons, hput]
      exact ih fun j hj => h j (List.mem_cons_of_mem _ hj)

def putOverride (P : Platform) (versionId canaryId : Int) (t : Tables) (replicaId : Json) : Tables :=
  { t with replicaOverride :=
    t.replicaOverride.upsert (textOf P replicaId) ⟨versionId, canaryId⟩ }

variable {versionId canaryId : Int}

theorem foldl_putOverride (rs : List Json) :
    rs.foldl (putOverride P versionId canaryId) s = { s with
      replicaOverride := (rs.map (textOf P)).foldl (fun t key => t.upsert key ⟨versionId, canaryId⟩)
        s.replicaOverride } := by
  induction rs generalizing s with
  | nil => rfl
  | cons r rs ih => exact ih

theorem foldl_putOverride_eq_self_iff (rs : List Json) :
    rs.foldl (putOverride P versionId canaryId) s = s ↔
      ∀ r ∈ rs, onRecord P s versionId canaryId r := by
  have htable : rs.foldl (putOverride P versionId canaryId) s = s ↔
      (rs.map (textOf P)).foldl (fun t key => t.upsert key ⟨versionId, canaryId⟩)
        s.replicaOverride = s.replicaOverride := by
    rw [foldl_putOverride]
    exact ⟨congrArg Tables.replicaOverride, fun h => by rw [h]⟩
  rw [htable, foldl_upsert_eq_self_iff, List.forall_mem_map]
  rfl

def overrideCheck (P : Platform) (versionId canaryId : Int) (r : Json) : Except Fault SqlValue := do
  let w ← bind P r
  let _ ← bind P (.int versionId)
  let _ ← bind P (.int canaryId)
  return w

theorem judge_overrideCheck (r : Json) :
    judge answered (overrideCheck P versionId canaryId r) = overrideRow P versionId canaryId r := by
  unfold overrideCheck overrideRow
  rw [← first_pair, ← first_pair (bound P (.int versionId)), first_singleton]
  refine judge_bind answered (judge_bind_param r) fun w _ => ?_
  refine judge_bind answered (judge_bind_param _) fun v _ => ?_
  exact judge_map answered (judge_bind_param _) fun _ => w

theorem setOverride_run (r : Json) (t : Tables) : (setOverride P versionId canaryId r).run t =
    match overrideCheck P versionId canaryId r with
    | .ok _ => .ok ⟨⟩ (putOverride P versionId canaryId t r)
    | .error e => .error e t := by
  unfold setOverride overrideCheck param
  cases hr : bind P r with
  | error e => rfl
  | ok w =>
    cases bind P (.int versionId) with
    | error e => rfl
    | ok v =>
      cases bind P (.int canaryId) with
      | error e => rfl
      | ok c =>
        unfold putOverride
        rw [← asText_of_bind hr]
        rfl

theorem setOverride_fine (r : Json) (t : Tables) (h : overrideRow P versionId canaryId r = .fine) :
    (setOverride P versionId canaryId r).run t =
      .ok ⟨⟩ (putOverride P versionId canaryId t r) := by
  rw [← judge_overrideCheck] at h
  rw [setOverride_run]
  cases hw : overrideCheck P versionId canaryId r with
  | ok w => rfl
  | error e =>
    rw [hw, judge] at h
    split at h <;> cases h

theorem setOverride_unfit (r : Json) (t : Tables) (h : overrideRow P versionId canaryId r ≠ .fine) :
    ∃ e, (setOverride P versionId canaryId r).run t = .error e t ∧
      (answered e = true ↔ overrideRow P versionId canaryId r = .refused) := by
  rw [← judge_overrideCheck] at h ⊢
  rw [setOverride_run]
  cases hw : overrideCheck P versionId canaryId r with
  | ok w => exact absurd (congrArg (judge answered) hw) h
  | error e =>
    refine ⟨e, rfl, ?_⟩
    rw [judge]
    split <;> simp_all

theorem outcome_setOverrides (replicaIds : Json) (a : α) :
    outcomeAt s (do
      setOverrides P replicaIds versionId canaryId
      return a) = first [iterable replicaIds,
        overrides P s versionId canaryId (items replicaIds)] := by
  unfold setOverrides
  rw [bind_assoc]
  refine outcome_check (reads_ofExcept _ _) (judge_iterate replicaIds) fun rs hrs => ?_
  rw [iterate_ok hrs, first_singleton]
  refine (outcome_map _ _ s s).trans ?_
  refine (outcome_forM setOverride_fine setOverride_unfit (items replicaIds) s s).trans ?_
  simp only [overrides]
  cases ((items replicaIds).dropWhile
      fun r => overrideRow P versionId canaryId r = .fine).head? with
  | none => rfl
  | some r => exact if_congr (and_congr_right fun _ => foldl_putOverride_eq_self_iff _) rfl rfl

theorem outcome_clearOverrides (n : Int) (a : α) :
    outcomeAt s (do
      clearOverrides P n
      return a) = first [bound P (.int n)] := by
  unfold clearOverrides
  rw [bind_assoc]
  exact outcome_last_param fun w _ => rfl

theorem outcome_canary (n : Int) (f : CanaryRow → α) :
    outcomeAt s (do return f (← canary P n)) =
      first [bound P (.int n), if (s.canaryTable.get? n).isSome then .fine else .refused] := by
  unfold canary
  rw [bind_assoc]
  refine outcome_param fun w _ => ?_
  rw [first_singleton]
  refine (outcome_map _ _ s s).trans ?_
  rw [outcome_get_bind]
  cases s.canaryTable.get? n with
  | none => exact outcome_reads (x := .error _) rfl
  | some row => rfl

theorem outcome_status (group : Json) (f : List (Option String × StatusRow) → α) :
    outcomeAt s (do return f (← status P group)) = first [bound P group] := by
  unfold status
  rw [bind_assoc]
  exact outcome_last_param fun w _ => rfl

/-! ### The dispatch -/

theorem outcome_desiredRoute (group : Json) :
    outcomeAt s (do versionOrNull P (← desired P group)) =
      first [pointed P s group, copiedDesired P s group] := by
  refine outcome_desired fun v hv => ?_
  rw [outcome_versionOrNull, copied_of_desiredOf hv, first_singleton]

theorem outcome_replicaRoute (replica group : Json) :
    outcomeAt s (do versionOrNull P (← desiredFor P replica group)) =
      first [overridden P s replica group, copiedTarget P s replica group] := by
  refine outcome_check (reads_desiredFor replica group) (judge_desiredForOf replica group)
    fun v hv => ?_
  exact (outcome_versionOrNull v).trans (by rw [copied_of_desiredForOf hv, first_singleton])

theorem outcome_replicaDesired (q : List (String × String)) :
    outcomeAt s (match q.lookup "replica" with
      | some replica =>
        if replica = "" then do
          let group ← ofExcept (queryItem q "group")
          versionOrNull P (← desired P (.str group))
        else do
          let group ← ofExcept (queryItem q "group")
          versionOrNull P (← desiredFor P (.str replica) (.str group))
      | none => do
        let group ← ofExcept (queryItem q "group")
        versionOrNull P (← desired P (.str group))) =
      first (asked q "group" :: if queryArg q "replica" = "" then
          [pointed P s (.str (queryArg q "group")), copiedDesired P s (.str (queryArg q "group"))]
        else [overridden P s (.str (queryArg q "replica")) (.str (queryArg q "group")),
          copiedTarget P s (.str (queryArg q "replica")) (.str (queryArg q "group"))]) := by
  unfold queryArg
  cases q.lookup "replica" with
  | none => exact outcome_queryItem (outcome_desiredRoute ..)
  | some replica =>
    rw [Option.getD_some]
    by_cases h : replica = ""
    · simp only [if_pos h]
      exact outcome_queryItem (outcome_desiredRoute ..)
    · simp only [if_neg h]
      exact outcome_queryItem (outcome_replicaRoute ..)

theorem outcome_version (n : Int) : outcomeAt s (do asdict P (← version P n)) =
    first [found P s n, copiedVersion P s n] := by
  refine outcome_check (reads_version n) (judge_versionOf n) fun v hv => ?_
  rw [outcome_asdict, copied_of_versionOf hv, first_singleton]

/-- Route by route, the verdicts on its arguments are its outcome. -/
theorem outcome_dispatch (method : Method) (path : String) (q : List (String × String)) (b : Json) :
    outcomeAt s (dispatch P method path q b) = first (verdicts P s method path q b) := by
  unfold dispatch verdicts
  by_cases h : path = "/health"
  · rw [if_pos h, if_pos h]
    rfl
  rw [if_neg h, if_neg h]
  by_cases h : method = .post ∧ path = "/v1/propose"
  · rw [if_pos h, if_pos h]
    refine outcome_item fun hb => outcome_item fun _ => ?_
    rw [outcome_getOr hb, outcome_getOr hb]
    exact outcome_propose ..
  rw [if_neg h, if_neg h]
  by_cases h : method = .post ∧ path = "/v1/promote"
  · rw [if_pos h, if_pos h]
    exact outcome_item fun _ => outcome_item fun _ => outcome_toInt (outcome_promote ..)
  rw [if_neg h, if_neg h]
  by_cases h : method = .post ∧ path = "/v1/rollback"
  · rw [if_pos h, if_pos h]
    exact outcome_item fun _ => outcome_item fun _ => outcome_toInt (outcome_promote ..)
  rw [if_neg h, if_neg h]
  by_cases h : method = .get ∧ path = "/v1/desired"
  · rw [if_pos h, if_pos h]
    exact outcome_replicaDesired q
  rw [if_neg h, if_neg h]
  by_cases h : method = .get ∧ path = "/v1/version"
  · rw [if_pos h, if_pos h]
    exact outcome_queryItem (outcome_toInt (outcome_version _))
  rw [if_neg h, if_neg h]
  by_cases h : method = .get ∧ path = "/v1/versions"
  · rw [if_pos h, if_pos h]
    exact outcome_queryItem (outcome_versions ..)
  rw [if_neg h, if_neg h]
  by_cases h : method = .post ∧ path = "/v1/status"
  · rw [if_pos h, if_pos h]
    refine outcome_item fun hb => outcome_item fun _ => ?_
    rw [outcome_getOr hb]
    refine outcome_item fun _ => ?_
    rw [outcome_getOr hb]
    exact outcome_recordStatus ..
  rw [if_neg h, if_neg h]
  by_cases h : method = .get ∧ path = "/v1/status"
  · rw [if_pos h, if_pos h]
    exact outcome_queryItem (outcome_status ..)
  rw [if_neg h, if_neg h]
  by_cases h : method = .post ∧ path = "/v1/canary/open"
  · rw [if_pos h, if_pos h]
    refine outcome_item fun _ => outcome_item fun _ => outcome_toInt ?_
    refine outcome_item fun _ => outcome_item fun _ => outcome_item fun _ => ?_
    refine outcome_check (reads_ofExcept _ _) (judge_toFloat _) fun x hx => ?_
    rw [toFloat_ok hx]
    exact outcome_openCanary ..
  rw [if_neg h, if_neg h]
  by_cases h : method = .get ∧ path = "/v1/canary"
  · rw [if_pos h, if_pos h]
    exact outcome_queryItem (outcome_toInt (outcome_canary ..))
  rw [if_neg h, if_neg h]
  by_cases h : method = .post ∧ path = "/v1/canary/close"
  · rw [if_pos h, if_pos h]
    refine outcome_item fun hb => outcome_toInt (outcome_item fun _ => ?_)
    rw [outcome_getOr hb]
    exact outcome_closeCanary ..
  rw [if_neg h, if_neg h]
  by_cases h : method = .post ∧ path = "/v1/overrides"
  · rw [if_pos h, if_pos h]
    refine outcome_item fun _ => outcome_item fun _ => outcome_toInt ?_
    exact outcome_item fun _ => outcome_toInt (outcome_setOverrides ..)
  rw [if_neg h, if_neg h]
  by_cases h : method = .delete ∧ path = "/v1/overrides"
  · rw [if_pos h, if_pos h]
    exact outcome_queryItem (outcome_toInt (outcome_clearOverrides ..))
  rw [if_neg h, if_neg h]
  exact outcome_reads (x := .error _) rfl

end Routes

end Trimtab.SqlStore.Handler
