import Trimtab.Checks
import Trimtab.ServerHandler

set_option autoImplicit false

/-!
# Which requests get an answer

Every argument of a route is fit for its use, or refused with an exception that the handler
answers, or breaks the request off. The first of them that is not fit decides.
-/
namespace Trimtab.SqlStore.Handler
open PyText Effects Checks

def answered (e : Fault) : Bool := (answer? e).isSome

section Verdicts

variable (P : Platform) (s : Tables)

/-! ### The uses of a value -/

/-- As a parameter of a statement. -/
def bound : Json → Verdict
  | .int n => if fits n then .fine else .broken
  | .str t => if (P.encodeError t).isSome then .refused else .fine
  | .list _ | .dict _ => .broken
  | _ => .fine

/-- In a column that takes no null. -/
def nonNull : Json → Verdict
  | .null | .float .nan => .broken
  | _ => .fine

def integral : Json → Verdict
  | .null | .list _ | .dict _ | .float (.inf _) => .broken
  | .float .nan => .refused
  | .str t => if (textToInt t).toOption.isSome then .fine else .refused
  | _ => .fine

def real : Json → Verdict
  | .null | .list _ | .dict _ => .broken
  | .int n => if (Json.floatOfInt n).toOption.isSome then .fine else .broken
  | .str t => if (textToFloat t).toOption.isSome then .fine else .refused
  | _ => .fine

def iterable : Json → Verdict
  | .list _ | .dict _ | .str _ => .fine
  | _ => .broken

/-! ### Arguments -/

def given (b : Json) (key : String) : Verdict :=
  match b with
  | .dict kvs => if (kvs.lookup key).isSome then .fine else .refused
  | _ => .broken

def asked (q : List (String × String)) (key : String) : Verdict :=
  if (q.lookup key).isSome then .fine else .refused

def argOr (b : Json) (key : String) (dflt : Json) : Json :=
  match b with
  | .dict kvs => (kvs.lookup key).getD dflt
  | _ => dflt

def arg (b : Json) (key : String) : Json := argOr b key .null

def queryArg (q : List (String × String)) (key : String) : String := (q.lookup key).getD ""

def num (v : Json) : Int := (toInt v).toOption.getD 0

def window (v : Json) : PyFloat := (toFloat v).toOption.getD .nan

def items (v : Json) : List Json := (iterate v).toOption.getD []

/-! ### Rows -/

/-- The text that a value is compared as. -/
def textOf (v : Json) : Option String := (bind P v).toOption.bind (SqlValue.asText P)

def found (n : Int) : Verdict :=
  first [bound P (.int n), if (s.configVersion.get? n).isSome then .fine else .refused]

/-- The group's pointer, if it has one, is to a version that is there. -/
def pointed (group : Json) : Verdict :=
  first [bound P group, match (textOf P group).bind s.desiredState.get? with
    | none => .fine
    | some n => found P s n]

def overridden (replica group : Json) : Verdict :=
  first [bound P replica, match (textOf P replica).bind s.replicaOverride.rows.get? with
    | none => pointed P s group
    | some o => found P s o.versionId]

def copied (fields : Json) : Verdict := if P.copies fields then .fine else .broken

def copiedVersion (n : Int) : Verdict :=
  match s.configVersion.get? n with
  | some row => copied P row.fields
  | none => .fine

def copiedDesired (group : Json) : Verdict :=
  match (textOf P group).bind s.desiredState.get? with
  | some n => copiedVersion P s n
  | none => .fine

def copiedTarget (replica group : Json) : Verdict :=
  match (textOf P replica).bind s.replicaOverride.rows.get? with
  | none => copiedDesired P s group
  | some o => copiedVersion P s o.versionId

def ofGroup (n : Int) (group : Json) : Verdict :=
  match s.configVersion.get? n with
  | some row => if Json.str row.replicaGroup = group then .fine else .refused
  | none => .fine

def overrideRow (versionId canaryId : Int) (replicaId : Json) : Verdict :=
  first [bound P replicaId, bound P (.int versionId), bound P (.int canaryId)]

def onRecord (versionId canaryId : Int) (replicaId : Json) : Prop :=
  ∃ k, textOf P replicaId = some k ∧
    s.replicaOverride.rows.get? k = some ⟨versionId, canaryId⟩

instance (versionId canaryId : Int) (replicaId : Json) :
    Decidable (onRecord P s versionId canaryId replicaId) :=
  match h : textOf P replicaId with
  | some k => decidable_of_iff (s.replicaOverride.rows.get? k = some ⟨versionId, canaryId⟩)
      ⟨fun hk => ⟨k, h, hk⟩, fun ⟨_, hk, hrow⟩ => Option.some.inj (h.symm.trans hk) ▸ hrow⟩
  | none => isFalse fun ⟨_, hk, _⟩ => Option.some_ne_none _ (hk.symm.trans h)

/-- A replica that is refused after others is answered when those rows changed nothing. -/
def overrides (versionId canaryId : Int) (replicaIds : List Json) : Verdict :=
  let fit (r : Json) : Bool := overrideRow P versionId canaryId r = .fine
  match (replicaIds.dropWhile fit).head? with
  | none => .fine
  | some r =>
    if overrideRow P versionId canaryId r = .refused ∧
        ∀ p ∈ replicaIds.takeWhile fit, onRecord P s versionId canaryId p then .refused
    else .broken

/-! ### Routes -/

def sortable (v : Json) : Verdict :=
  first [iterable v, judge answered (python (P.sorted (items v)))]

/-- The row is written before the last two. -/
def proposeVerdicts (group fields createdBy reason : Json) : List Verdict :=
  [pointed P s group, bound P createdBy, bound P reason, nonNull group, nonNull createdBy,
    nonNull reason, bound P (.int s.configVersion.nextId), copied P fields.sortKeys]

def promoteVerdicts (b : Json) : List Verdict :=
  let n := num (arg b "version_id")
  [given b "group", given b "version_id", integral (arg b "version_id"), found P s n,
    ofGroup s n (arg b "group"), bound P (arg b "group")]

def verdicts (method : Method) (path : String) (q : List (String × String)) (b : Json) :
    List Verdict :=
  if path = "/health" then []
  else if method = .post ∧ path = "/v1/propose" then
    [given b "group", given b "fields"] ++
      proposeVerdicts P s (arg b "group") (arg b "fields") (argOr b "created_by" (.str "api"))
        (argOr b "reason" (.str ""))
  else if method = .post ∧ path = "/v1/promote" then promoteVerdicts P s b
  else if method = .post ∧ path = "/v1/rollback" then promoteVerdicts P s b
  else if method = .get ∧ path = "/v1/desired" then
    let group := Json.str (queryArg q "group")
    let replica := Json.str (queryArg q "replica")
    asked q "group" :: if queryArg q "replica" = "" then
      [pointed P s group, copiedDesired P s group]
    else [overridden P s replica group, copiedTarget P s replica group]
  else if method = .get ∧ path = "/v1/version" then
    let n := num (.str (queryArg q "id"))
    [asked q "id", integral (.str (queryArg q "id")), found P s n, copiedVersion P s n]
  else if method = .get ∧ path = "/v1/versions" then
    let group := Json.str (queryArg q "group")
    let rows := s.configVersion.rows.filter fun r => some r.2.replicaGroup = textOf P group
    [asked q "group", bound P group] ++ ((rows.map fun r => found P s r.1) ++
      rows.map fun r => copied P r.2.fields)
  else if method = .post ∧ path = "/v1/status" then
    let detail := argOr b "detail" (.str "")
    [given b "replica_id", given b "group", given b "state", bound P (arg b "replica_id"),
      bound P (arg b "group"), bound P (arg b "applied_version_id"), bound P (arg b "state"),
      bound P detail, nonNull (arg b "group"), nonNull (arg b "state"), nonNull detail]
  else if method = .get ∧ path = "/v1/status" then
    [asked q "group", bound P (.str (queryArg q "group"))]
  else if method = .post ∧ path = "/v1/canary/open" then
    let n := num (arg b "candidate_id")
    let w := Json.float (window (arg b "window_s"))
    [given b "group", given b "candidate_id", integral (arg b "candidate_id"), given b "scope",
      given b "gates", given b "window_s", real (arg b "window_s"), pointed P s (arg b "group"),
      sortable P (arg b "scope"), bound P (.int n), nonNull (arg b "group"), nonNull w]
  else if method = .get ∧ path = "/v1/canary" then
    let n := num (.str (queryArg q "id"))
    [asked q "id", integral (.str (queryArg q "id")), bound P (.int n),
      if (s.canaryTable.get? n).isSome then .fine else .refused]
  else if method = .post ∧ path = "/v1/canary/close" then
    let n := num (arg b "id")
    let decision := argOr b "decision" (.str "")
    [given b "id", integral (arg b "id"), given b "status", bound P (arg b "status"),
      bound P decision, bound P (.int n)] ++
      if (s.canaryTable.get? n).isSome then [nonNull (arg b "status"), nonNull decision] else []
  else if method = .post ∧ path = "/v1/overrides" then
    [given b "replica_ids", given b "version_id", integral (arg b "version_id"),
      given b "canary_id", integral (arg b "canary_id"), iterable (arg b "replica_ids"),
      overrides P s (num (arg b "version_id")) (num (arg b "canary_id"))
        (items (arg b "replica_ids"))]
  else if method = .delete ∧ path = "/v1/overrides" then
    [asked q "canary_id", integral (.str (queryArg q "canary_id")),
      bound P (.int (num (.str (queryArg q "canary_id"))))]
  else [.refused]

end Verdicts

/-! ## The uses, as the code makes them -/

section Uses

variable {P : Platform} {s : Tables}

theorem judge_bind_param (v : Json) : judge answered (bind P v) = bound P v := by
  cases v with
  | int n =>
    simp only [bind, bound]
    split_ifs <;> rfl
  | str t =>
    simp only [bind, bound]
    cases P.encodeError t <;> rfl
  | float x => cases x <;> rfl
  | _ => rfl

theorem judge_notNull {v : Json} {w : SqlValue} (h : bind P v = .ok w) (column : String) :
    judge answered (notNull column (w.asText P)) = nonNull v := by
  cases v with
  | null =>
    cases h
    rfl
  | bool b =>
    cases h
    rfl
  | int n =>
    simp only [bind] at h
    split_ifs at h
    cases h
    rfl
  | float x =>
    cases x <;> cases h <;> rfl
  | str t =>
    simp only [bind] at h
    cases ht : P.encodeError t with
    | none =>
      rw [ht] at h
      cases h
      rfl
    | some msg =>
      rw [ht] at h
      cases h
  | list xs => cases h
  | dict kvs => cases h

theorem judge_item (b : Json) (key : String) : judge answered (item b key) = given b key := by
  cases b with
  | dict kvs =>
    simp only [item, given]
    cases kvs.lookup key <;> rfl
  | _ => rfl

theorem judge_queryItem (q : List (String × String)) (key : String) :
    judge answered (queryItem q key) = asked q key := by
  unfold queryItem asked
  cases q.lookup key <;> rfl

theorem judge_textToInt (t : String) : judge answered (python (textToInt t)) =
    if (textToInt t).toOption.isSome then .fine else .refused := by
  unfold textToInt
  generalize integer (strip t.toList) = read
  dsimp only
  split
  · rfl
  · cases read <;> rfl

theorem judge_toInt (v : Json) : judge answered (toInt v) = integral v := by
  cases v with
  | str t => exact judge_textToInt t
  | float x => cases x <;> rfl
  | _ => rfl

theorem floatOfInt_error {n : Int} {e : PyErr} (h : Json.floatOfInt n = .error e) :
    e = .overflowError "int too large to convert to float" := by
  unfold Json.floatOfInt at h
  generalize (2 : Nat) ^ 1024 = bound at h
  simp only at h
  split at h
  · cases h
  · exact (Except.error.inj h).symm

theorem judge_floatOfInt (n : Int) : judge answered (python (Json.floatOfInt n)) =
    if (Json.floatOfInt n).toOption.isSome then .fine else .broken := by
  generalize h : Json.floatOfInt n = x
  cases x with
  | ok x => rfl
  | error e =>
    rw [floatOfInt_error h]
    rfl

theorem textToFloat_error {t : String} {e : PyErr} (h : textToFloat t = .error e) :
    e = .valueError ("could not convert string to float: " ++ pyRepr t) := by
  unfold textToFloat at h
  generalize signed ((strip t.toList).map Char.toLower) = sc at h
  simp only at h
  generalize decimal sc.2 = d at h
  cases d with
  | none => exact (Except.error.inj h).symm
  | some x => cases h

theorem judge_textToFloat (t : String) : judge answered (python (textToFloat t)) =
    if (textToFloat t).toOption.isSome then .fine else .refused := by
  generalize h : textToFloat t = x
  cases x with
  | ok x => rfl
  | error e =>
    rw [textToFloat_error h]
    rfl

theorem judge_toFloat (v : Json) : judge answered (toFloat v) = real v := by
  cases v with
  | int n => exact judge_floatOfInt n
  | str t => exact judge_textToFloat t
  | _ => rfl

theorem judge_iterate (v : Json) : judge answered (iterate v) = iterable v := by
  cases v <;> rfl

theorem item_ok {b : Json} {key : String} {v : Json} (h : item b key = .ok v) :
    (∃ kvs, b = .dict kvs) ∧ v = arg b key := by
  cases b with
  | dict kvs =>
    refine ⟨⟨kvs, rfl⟩, ?_⟩
    simp only [item] at h
    simp only [arg, argOr]
    cases hv : kvs.lookup key with
    | none =>
      rw [hv] at h
      cases h
    | some w =>
      rw [hv] at h
      exact (Except.ok.inj h).symm
  | _ => cases h

theorem queryItem_ok {q : List (String × String)} {key v : String} (h : queryItem q key = .ok v) :
    v = queryArg q key := by
  unfold queryItem at h
  unfold queryArg
  cases hv : q.lookup key with
  | none =>
    rw [hv] at h
    cases h
  | some w =>
    rw [hv] at h
    exact (Except.ok.inj h).symm

theorem toInt_ok {v : Json} {n : Int} (h : toInt v = .ok n) : n = num v := by
  rw [num, h]
  rfl

theorem toFloat_ok {v : Json} {x : PyFloat} (h : toFloat v = .ok x) : x = window v := by
  rw [window, h]
  rfl

theorem iterate_ok {v : Json} {xs : List Json} (h : iterate v = .ok xs) : xs = items v := by
  rw [items, h]
  rfl

theorem asText_of_bind {v : Json} {w : SqlValue} (h : bind P v = .ok w) :
    w.asText P = textOf P v := by
  rw [textOf, h]
  rfl

end Uses

end Trimtab.SqlStore.Handler
