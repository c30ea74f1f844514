import Trimtab.Server

set_option autoImplicit false

/-!
# What a call is on the wire

Every call of the interface is a request, which the handler serves by one method of the store, and
whose response is read back as that method's result.
-/
namespace Trimtab.RemoteStore
open Server StoreCall Effects Runs StoreHistory

/-! ## What comes back from the wire -/

@[simp] theorem dict?_entries (fields : Fields) : dict? (.dict fields.entries) = some fields :=
  congrArg some (Dict.ofList_entries fields)

@[simp] theorem intOrNull?_intOrNull (n : Option Int) : intOrNull? (intOrNull n) = some n := by
  cases n <;> rfl

theorem list?_map {α : Type} {item? : Json → Option α} {f : α → Json}
    (h : ∀ a, item? (f a) = some a) (xs : List α) : list? item? (.list (xs.map f)) = some xs := by
  change (xs.map f).mapM item? = some xs
  induction xs with
  | nil => rfl
  | cons x xs ih => simp [h x, ih]

@[simp] theorem list?_texts (xs : List String) : list? str? (.list (xs.map .str)) = some xs :=
  list?_map (f := .str) (fun _ => rfl) xs

@[simp] theorem list?_gates (gates : List Gate) :
    list? dict? (.list (gates.map fun g => .dict g.entries)) = some gates :=
  list?_map dict?_entries gates

@[simp] theorem intOfText_repr (n : Int) : intOfText n.repr = .ok n := by
  rw [intOfText, Int.toInt?_repr]

theorem firstValues_one {key value : String} (h : value ≠ "") :
    firstValues [(key, value)] = [(key, value)] := by
  simp [firstValues, parseQs, h, Dict.insert, Dict.insertEntry, Dict.get?]

theorem firstValues_blank (key : String) : firstValues [(key, "")] = [] := rfl

theorem repr_ne_blank (n : Int) : n.repr ≠ "" := by
  cases n with
  | ofNat m => exact Nat.repr_ne_empty
  | negSucc m => simp [Int.repr]

@[simp] theorem cv_versionDict (v : ConfigVersion) : cv (versionDict v) = pure (some v) := by
  simp [cv, versionDict, ofDict, typed, List.lookup_cons, int?, str?]

theorem mapM_cv (vs : List ConfigVersion) :
    (vs.map versionDict).mapM cv = pure (vs.map some) := by
  induction vs with
  | nil => rfl
  | cons v vs ih => simp [ih]

@[simp] theorem cv_versionOrNull (v : Option ConfigVersion) :
    cv ((v.map versionDict).getD .null) = pure v := by
  cases v with
  | none => rfl
  | some v => exact cv_versionDict v

theorem firstValues_two {j k v w : String} (hk : j ≠ k) (hv : v ≠ "") (hw : w ≠ "") :
    firstValues [(j, v), (k, w)] = [(j, v), (k, w)] := by
  simp [firstValues, parseQs, hv, hw, hk, Dict.insert, Dict.insertEntry, Dict.get?, List.lookup_cons,
    beq_false_of_ne hk.symm]

/-! ## What goes over the wire -/

section Encoding

variable (copies : Json → Bool) {β : Type}

/-- `asdict` comes to the bottom of the version's fields. -/
def shallow (v : ConfigVersion) : Bool := copies (.dict v.fields.entries)

/-- What the server makes of a result, unless something in it is too deep. -/
def encoded (good : β → Bool) (json : β → Json) (b : β) : StoreM Json :=
  if good b then return json b else throw tooDeep

theorem final_encoded (good : β → Bool) (json : β → Json) (b : β) (s : Store) :
    final (encoded good json b) s = s := by
  unfold encoded
  split <;> rfl

@[simp] theorem encoded_true (json : β → Json) :
    encoded (fun _ => true) json = fun b => pure (json b) := rfl

theorem asdict_eq : asdict copies = encoded (shallow copies) versionDict := rfl

theorem versionOrNull_eq (v : Option ConfigVersion) : versionOrNull copies v =
    encoded (·.all (shallow copies)) (fun v => (v.map versionDict).getD .null) v := by
  cases v <;> rfl

theorem mapM_asdict (vs : List ConfigVersion) : vs.mapM (asdict copies) =
    if vs.all (shallow copies) then return vs.map versionDict else throw tooDeep := by
  induction vs with
  | nil => rfl
  | cons v vs ih =>
    rw [List.mapM_cons, ih, asdict, List.all_cons, shallow]
    by_cases hv : copies (.dict v.fields.entries) = true
    · by_cases hvs : vs.all (shallow copies) = true
      · simp [hv, hvs]
      · simp only [hv, hvs, if_true, if_false, Bool.true_and, pure_bind, Bool.false_eq_true,
          throw_bind]
    · simp only [hv, if_false, Bool.false_and, Bool.false_eq_true, throw_bind]

theorem list_asdict (vs : List ConfigVersion) : (do return Json.list (← vs.mapM (asdict copies))) =
    encoded (·.all (shallow copies)) (fun vs => .list (vs.map versionDict)) vs := by
  rw [mapM_asdict, encoded]
  split
  · rw [pure_bind]
  · rw [throw_bind]

end Encoding

def request (token : String) : StoreCall → Request
  | .propose group fields createdBy reason =>
    ⟨.post, "/v1/propose", token, [], some [("group", .str group), ("fields", .dict fields.entries),
      ("created_by", .str createdBy), ("reason", .str reason)]⟩
  | .promote group versionId =>
    ⟨.post, "/v1/promote", token, [], some [("group", .str group), ("version_id", .int versionId)]⟩
  | .rollback group versionId =>
    ⟨.post, "/v1/rollback", token, [], some [("group", .str group), ("version_id", .int versionId)]⟩
  | .desired group => ⟨.get, "/v1/desired", token, [("group", group)], none⟩
  | .desiredFor replicaId group =>
    ⟨.get, "/v1/desired", token, [("group", group), ("replica", replicaId)], none⟩
  | .version versionId => ⟨.get, "/v1/version", token, [("id", versionId.repr)], none⟩
  | .versions group => ⟨.get, "/v1/versions", token, [("group", group)], none⟩
  | .recordStatus replicaId group appliedVersionId state detail =>
    ⟨.post, "/v1/status", token, [], some [("replica_id", .str replicaId), ("group", .str group),
      ("applied_version_id", intOrNull appliedVersionId), ("state", .str state),
      ("detail", .str detail)]⟩
  | .status group => ⟨.get, "/v1/status", token, [("group", group)], none⟩
  | .openCanary group candidateId scope gates windowS =>
    ⟨.post, "/v1/canary/open", token, [], some [("group", .str group),
      ("candidate_id", .int candidateId), ("scope", .list (scope.map .str)),
      ("gates", .list (gates.map fun g => .dict g.entries)), ("window_s", .float (.fin windowS))]⟩
  | .canary canaryId => ⟨.get, "/v1/canary", token, [("id", canaryId.repr)], none⟩
  | .closeCanary canaryId status decision =>
    ⟨.post, "/v1/canary/close", token, [], some [("id", .int canaryId), ("status", .str status),
      ("decision", .str decision)]⟩
  | .setOverrides replicaIds versionId canaryId =>
    ⟨.post, "/v1/overrides", token, [], some [("replica_ids", .list (replicaIds.map .str)),
      ("version_id", .int versionId), ("canary_id", .int canaryId)]⟩
  | .clearOverrides canaryId => ⟨.delete, "/v1/overrides", token, [("canary_id", canaryId.repr)], none⟩

def requestBody (r : Request) : List (String × Json) := if r.method = .get then [] else r.body.getD []

variable (copies : Json → Bool) (token : String)

def serve (c : StoreCall) : StoreM Json :=
  dispatch copies (request token c).method (request token c).path
    (firstValues (request token c).query) (requestBody (request token c))

/-- The handler serves the call by the method `y`, and encodes what that returns. -/
def Serves {β : Type} (c : StoreCall) (y : StoreM β) (good : β → Bool) (json : β → Json) : Prop :=
  serve copies token c = y >>= encoded good json

section Served

variable {copies token}

theorem serves_propose (group : String) (fields : Fields) (createdBy reason : String) :
    Serves copies token (.propose group fields createdBy reason)
      (Store.propose group fields createdBy reason) (shallow copies) versionDict := by
  simp [Serves, serve, request, requestBody, dispatch, text, textOr, item, typed, List.lookup_cons,
    str?, asdict_eq]

theorem serves_promote (group : String) (id : Int) :
    Serves copies token (.promote group id) (Store.promote group id) (fun _ => true)
      fun _ => ok := by
  simp [Serves, serve, request, requestBody, dispatch, text, number, item, typed, List.lookup_cons,
    str?, intOf, ofExcept]

theorem serves_rollback (group : String) (id : Int) :
    Serves copies token (.rollback group id) (Store.rollback group id) (fun _ => true)
      fun _ => ok := by
  simp [Serves, serve, request, requestBody, dispatch, text, number, item, typed, List.lookup_cons,
    str?, intOf, ofExcept]

theorem serves_desired {group : String} (h : group ≠ "") :
    Serves copies token (.desired group) (Store.desired group) (·.all (shallow copies))
      fun v => (v.map versionDict).getD .null := by
  have hencoded := funext (versionOrNull_eq copies)
  simp [Serves, serve, request, dispatch, firstValues_one h, item, ← hencoded]

theorem serves_desiredFor {replicaId group : String} (hr : replicaId ≠ "") (hg : group ≠ "") :
    Serves copies token (.desiredFor replicaId group) (Store.desiredFor replicaId group)
      (·.all (shallow copies)) fun v => (v.map versionDict).getD .null := by
  have hq := firstValues_two (j := "group") (k := "replica") (by decide) hg hr
  have hencoded := funext (versionOrNull_eq copies)
  simp [Serves, serve, request, dispatch, hq, hr, item, List.lookup_cons, ← hencoded]

theorem serves_blank_replica {group : String} (h : group ≠ "") :
    Serves copies token (.desiredFor "" group) (Store.desired group) (·.all (shallow copies))
      fun v => (v.map versionDict).getD .null := by
  have hq : firstValues [("group", group), ("replica", "")] = [("group", group)] := firstValues_one h
  have hencoded := funext (versionOrNull_eq copies)
  simp [Serves, serve, request, dispatch, hq, item, ← hencoded]

theorem serves_version (id : Int) :
    Serves copies token (.version id) (Store.version id) (shallow copies) versionDict := by
  simp [Serves, serve, request, dispatch, firstValues_one (repr_ne_blank id), queryNumber, item,
    ofExcept, asdict_eq]

theorem serves_versions {group : String} (h : group ≠ "") :
    Serves copies token (.versions group) (Store.versions group) (·.all (shallow copies))
      fun vs => .list (vs.map versionDict) := by
  have hencoded := funext (list_asdict copies)
  simp [Serves, serve, request, dispatch, firstValues_one h, item, ← hencoded]

theorem serves_recordStatus (replicaId group : String) (applied : Option Int)
    (state detail : String) : Serves copies token (.recordStatus replicaId group applied state detail)
      (Store.recordStatusOf replicaId group applied state detail) (fun _ => true) fun _ => ok := by
  simp [Serves, serve, request, requestBody, dispatch, text, textOr, item, typed, List.lookup_cons,
    str?]

theorem serves_status {group : String} (h : group ≠ "") :
    Serves copies token (.status group) (Store.status group) (fun _ => true)
      fun rows => .list (rows.map statusDict) := by
  simp [Serves, serve, request, dispatch, firstValues_one h, item]

theorem serves_openCanary (group : String) (candidateId : Int) (scope : List String)
    (gates : List Gate) (windowS : Rat) :
    Serves copies token (.openCanary group candidateId scope gates windowS)
      (Store.openCanary group candidateId scope gates windowS) (fun _ => true)
      fun n => .dict [("id", .int n)] := by
  simp [Serves, serve, request, requestBody, dispatch, text, texts, number, item, typed,
    List.lookup_cons, str?, intOf, floatOf, ofExcept]

theorem serves_canary (id : Int) : Serves copies token (.canary id) (Store.canary id)
    (fun _ => true) (canaryDict id) := by
  simp [Serves, serve, request, dispatch, firstValues_one (repr_ne_blank id), queryNumber, item,
    ofExcept]

theorem serves_closeCanary (id : Int) (newStatus decision : String) :
    Serves copies token (.closeCanary id newStatus decision)
      (Store.closeCanary id newStatus decision) (fun _ => true) fun _ => ok := by
  simp [Serves, serve, request, requestBody, dispatch, text, textOr, number, item, typed,
    List.lookup_cons, str?, intOf, ofExcept]

theorem serves_setOverrides (replicaIds : List String) (versionId canaryId : Int) :
    Serves copies token (.setOverrides replicaIds versionId canaryId)
      (Store.setOverrides replicaIds versionId canaryId) (fun _ => true) fun _ => ok := by
  simp [Serves, serve, request, requestBody, dispatch, texts, number, item, typed, List.lookup_cons,
    intOf, ofExcept]

theorem serves_clearOverrides (canaryId : Int) :
    Serves copies token (.clearOverrides canaryId) (Store.clearOverrides canaryId) (fun _ => true)
      fun _ => ok := by
  simp [Serves, serve, request, dispatch, firstValues_one (repr_ne_blank canaryId), queryNumber,
    item, ofExcept]

def BlankGroup : StoreCall → Prop
  | .desired group | .versions group | .status group | .desiredFor _ group => group = ""
  | _ => False

/-- The handler misses the group in the query. -/
theorem serve_blank {c : StoreCall} (h : BlankGroup c) :
    serve copies token c = throw (.keyError "group") := by
  cases c with
  | desired group | versions group | status group =>
    cases h
    simp [serve, request, dispatch, firstValues_blank, item, throw_bind]
  | desiredFor replicaId group =>
    cases h
    by_cases hr : replicaId = ""
    · subst hr
      simp [serve, request, dispatch, firstValues, parseQs, item, throw_bind]
    · have hq : firstValues [("group", ""), ("replica", replicaId)] = [("replica", replicaId)] :=
        firstValues_one hr
      simp [serve, request, dispatch, hq, hr, item, throw_bind]
  | _ => exact h.elim

end Served

end Trimtab.RemoteStore
