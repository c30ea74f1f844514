import Trimtab.RemoteRequests

set_option autoImplicit false

/-!
# The client and the store

Calls through the client against calls on the store itself: which are answered alike, and that a
sequence of them is when each one is.
-/
namespace Trimtab.RemoteStore
open Server StoreCall Effects Runs StoreHistory

variable (copies : Json → Bool) (token : String)

/-! ## Exceptions -/

/-- The exceptions that the server turns into a response. -/
def Caught : PyErr → Prop
  | .keyError _ | .valueError _ => True
  | _ => False

def Known : PyErr → Prop
  | .keyError _ | .valueError _ | .overflowError _ => True
  | _ => False

def Queried : PyErr → Prop
  | .keyError _ | .overflowError _ => True
  | _ => False

def carried : PyErr → PyErr
  | .keyError msg => .keyError (PyText.pyRepr msg)
  | .valueError msg => .valueError msg
  | _ => .osError "Remote end closed connection without response"

theorem typeName_ne_of_known {e : PyErr} (h : Known e) : "OSError" ≠ e.typeName := by
  cases e with
  | keyError msg | valueError msg | overflowError msg => simp [PyErr.typeName]
  | _ => exact h.elim

theorem typeName_carried_iff {e : PyErr} (h : Known e) :
    (carried e).typeName = e.typeName ↔ Caught e := by
  cases e with
  | keyError msg | valueError msg => exact iff_of_true rfl trivial
  | overflowError msg => exact iff_of_false (typeName_ne_of_known h) fun h => h
  | _ => exact h.elim

theorem known_of_queried {e : PyErr} (h : Queried e) : Known e := by
  cases e <;> first | exact h | exact h.elim

theorem queried_missing (what : String) (id : Int) : Queried (Store.missing what id) := by
  unfold Store.missing
  split <;> trivial

theorem caught_missing_iff (what : String) (id : Int) :
    Caught (Store.missing what id) ↔ fits id = true := by
  unfold Store.missing
  split
  · rename_i hfits
    exact iff_of_true trivial hfits
  · rename_i hfits
    exact iff_of_false (fun h => h) hfits

section Raised

variable {ρ : Type} {s : Store}

/-- A lookup that finds nothing is told as it is when its id can be bound. -/
theorem binds_iff_of_none {table : SerialTable ρ} {id : Int} (h : table.get? id = none) :
    Store.binds table id = true ↔ fits id = true := by
  rw [Store.binds, h, Option.isSome_none, Bool.or_false]

theorem raises_bindId (table : SerialTable ρ) (id : Int) : Raises Queried (Store.bindId table id) := by
  unfold Store.bindId
  split
  · exact raises_pure _
  · exact raises_throw trivial

theorem raises_fetch (table : SerialTable ρ) (what : String) (id : Int) :
    Raises Queried (Store.fetch table what id) := by
  refine raises_bind (raises_bindId table id) fun _ => ?_
  cases table.get? id with
  | none => exact raises_throw trivial
  | some row => exact raises_pure row

theorem raises_version (id : Int) : Raises Queried (Store.version id) :=
  raises_bind raises_get fun s =>
    raises_bind (raises_fetch s.configVersion "no config_version " id) fun _ => raises_pure _

theorem raises_desired (group : String) : Raises Queried (Store.desired group) := by
  refine raises_bind raises_get fun s => ?_
  cases s.desiredState.get? group with
  | none => exact raises_pure _
  | some id => exact raises_bind (raises_version id) fun v => raises_pure _

theorem raises_desiredFor (replicaId group : String) :
    Raises Queried (Store.desiredFor replicaId group) := by
  refine raises_bind raises_get fun s => ?_
  cases s.replicaOverride.get? replicaId with
  | none => exact raises_desired group
  | some o => exact raises_bind (raises_version o.versionId) fun v => raises_pure _

theorem raises_canary (id : Int) : Raises Queried (Store.canary id) :=
  raises_bind raises_get fun s => raises_fetch s.canaryTable "no canary " id

theorem raises_versions (group : String) : Raises Queried (Store.versions group) := by
  intro s e t h
  rw [Store.versions_run] at h
  cases h

theorem raises_status (group : String) : Raises Queried (Store.status group) := by
  intro s e t h
  rw [Store.status_run] at h
  cases h

theorem raises_clearOverrides (canaryId : Int) : Raises Queried (Store.clearOverrides canaryId) :=
  raises_bind raises_get fun s => raises_bind (raises_bindId s.canaryTable canaryId) fun _ =>
    raises_modify _

theorem raises_known {α : Type} {x : StoreM α} (h : Raises Queried x) : Raises Known x :=
  fun s e t hx => known_of_queried (h s e t hx)

theorem raises_propose (group : String) (fields : Fields) (createdBy reason : String) :
    Raises Known (Store.propose group fields createdBy reason) :=
  raises_bind (raises_known (raises_desired group)) fun _ => raises_bind raises_get fun s =>
    raises_bind (raises_modify _) fun _ => raises_known (raises_version s.configVersion.nextId)

theorem raises_promote (group : String) (id : Int) : Raises Known (Store.promote group id) := by
  refine raises_bind (raises_known (raises_version id)) fun v => ?_
  split_ifs
  · exact raises_bind (raises_throw trivial) fun _ => raises_modify _
  · exact raises_modify _

theorem raises_openCanary (group : String) (candidateId : Int) (scope : List String)
    (gates : List Gate) (windowS : Rat) :
    Raises Known (Store.openCanary group candidateId scope gates windowS) :=
  raises_bind (raises_known (raises_desired group)) fun _ => raises_bind raises_get fun s =>
    raises_bind (raises_known (raises_bindId s.configVersion candidateId)) fun _ =>
      raises_bind raises_get fun _ => raises_bind (raises_modify _) fun _ => raises_pure _

theorem raises_recordStatusOf (replicaId group : String) (applied : Option Int)
    (state detail : String) :
    Raises Known (Store.recordStatusOf replicaId group applied state detail) := by
  intro s e t h
  rw [Store.recordStatusOf_run] at h
  split at h
  · cases h
  · cases h
    trivial

theorem raises_setOverrides (replicaIds : List String) (versionId canaryId : Int) :
    Raises Known (Store.setOverrides replicaIds versionId canaryId) := by
  intro s e t h
  rw [Store.setOverrides_run] at h
  split at h
  · cases h
  · cases h
    trivial

theorem raises_closeCanary (id : Int) (status decision : String) :
    Raises Known (Store.closeCanary id status decision) := by
  intro s e t h
  rw [Store.closeCanary_run] at h
  split at h
  · cases h
  · cases h
    trivial

end Raised

/-! ## One call -/

/-- The server reads the line of the request. -/
def Short (c : StoreCall) : Prop :=
  lineLength (request token c).method (request token c).path (request token c).query ≤ maxLine

/-- The call's `_call`. -/
def sent (c : StoreCall) : StoreM Json :=
  call copies token (request token c).method (request token c).path (request token c).body
    (request token c).query

section Sent

variable {copies token} {s : Store} {α β : Type}

theorem bearer_request (c : StoreCall) : (request token c).bearer = token := by
  cases c <;> rfl

theorem route_request (c : StoreCall) (s : Store) : route copies token (request token c) s =
    match (serve copies token c).run s with
    | .ok v t => (some ⟨200, v⟩, t)
    | .error (.keyError msg) t => (some (failure 404 (PyText.pyRepr msg)), t)
    | .error (.valueError msg) t => (some (failure 400 msg), t)
    | .error _ t => (none, t) := by
  unfold route
  rw [if_pos (.inr (bearer_request c))]
  rfl

theorem sent_run {c : StoreCall} (h : Short token c) (s : Store) : (sent copies token c).run s =
    match (serve copies token c).run s with
    | .ok v t => .ok v t
    | .error e t => .error (carried e) t := by
  have hrequest : (⟨(request token c).method, (request token c).path, token,
      (request token c).query, (request token c).body⟩ : Request) = request token c := by
    cases c <;> rfl
  change sent copies token c s = _
  unfold sent call
  rw [if_neg (Nat.not_lt.mpr h), hrequest, route_request]
  cases (serve copies token c).run s with
  | ok v t => rfl
  | error e t => cases e <;> rfl

theorem sent_long {c : StoreCall} (h : ¬Short token c) (s : Store) : (sent copies token c).run s =
    .error (.valueError "Expecting value: line 1 column 1 (char 0)") s := by
  change sent copies token c s = _
  unfold sent call
  rw [if_pos (Nat.lt_of_not_le h)]

theorem failed {x : StoreM Value} {e : PyErr} (h : x.run s = .error e s) :
    answer x s = .error e.typeName ∧ final x s = s := by
  refine ⟨?_, final_of_error h⟩
  unfold answer
  rw [h]

/-- A `_call` that raises is the end of the client's method. -/
theorem remote_failed {c : StoreCall} {e : PyErr} (h : (sent copies token c).run s = .error e s) :
    answer (c.onRemote copies token) s = .error e.typeName ∧
      final (c.onRemote copies token) s = s := by
  cases c with
  | status | canary => exact failed (error_bind h _)
  | _ => exact failed (error_bind (error_bind h _) _)

/-- The client's method `x` returns what the store's method `y` returns, if that can be encoded,
and leaves what `y` leaves. -/
def Carries (good : β → Bool) (result : β → α) (x : StoreM α) (y : StoreM β) : Prop :=
  ∀ s, x.run s = match y.run s with
    | .ok b t => if good b then .ok (result b) t else .error (carried tooDeep) t
    | .error e t => .error (carried e) t

theorem carries_of_serves {c : StoreCall} {y : StoreM β} {good : β → Bool} {json : β → Json}
    (hc : Serves copies token c y good json) (hshort : Short token c) {decode : Json → StoreM α}
    {result : β → α} (decoded : ∀ b, decode (json b) = pure (result b)) :
    Carries good result (sent copies token c >>= decode) y := by
  intro s
  rw [EStateM.run_bind, sent_run hshort, hc, EStateM.run_bind]
  cases y.run s with
  | error e t => rfl
  | ok b t =>
    by_cases hb : good b = true
    · simp only [encoded, if_pos hb, EStateM.run_pure, decoded]
    · simp only [encoded, if_neg hb]
      rfl

def Back (good : β → Bool) (y : StoreM β) (s : Store) : Prop :=
  match y.run s with
  | .ok b _ => good b = true
  | .error e _ => Caught e

/-- A call is told right when it comes back, and leaves what the store's method leaves in any
case. -/
theorem told_of_carries {good : β → Bool} {result : β → α} {x : StoreM α} {y : StoreM β}
    (h : Carries good result x y) (hy : Raises Known y) (value : α → Value) (s : Store) :
    (answer (do return value (← x)) s = answer (do return value (result (← y))) s ↔
      Back good y s) ∧
      final (do return value (← x)) s = final (do return value (result (← y))) s := by
  unfold answer final Back
  rw [EStateM.run_bind, EStateM.run_bind, h s]
  cases hrun : y.run s with
  | error e t =>
    refine ⟨Iff.trans ?_ (typeName_carried_iff (hy s e t hrun)), rfl⟩
    exact ⟨Except.error.inj, congrArg Except.error⟩
  | ok b t =>
    dsimp only
    by_cases hb : good b = true
    · rw [if_pos hb]
      exact ⟨iff_of_true rfl hb, rfl⟩
    · rw [if_neg hb]
      exact ⟨iff_of_false (fun h => by cases h) hb, rfl⟩

theorem told_of_serves {c : StoreCall} {y : StoreM β} {good : β → Bool} {json : β → Json}
    (hc : Serves copies token c y good json) (hshort : Short token c) {decode : Json → StoreM α}
    {result : β → α} (decoded : ∀ b, decode (json b) = pure (result b)) (hy : Raises Known y)
    {R : Prop} (hback : Back good y s ↔ R) (value : α → Value) :
    (answer (do return value (← (sent copies token c >>= decode))) s =
      answer (do return value (result (← y))) s ↔ R) ∧
      final (do return value (← (sent copies token c >>= decode))) s =
        final (do return value (result (← y))) s := by
  have htold := told_of_carries (carries_of_serves hc hshort decoded) hy value s
  exact ⟨htold.1.trans hback, htold.2⟩

/-- A response that the client does not look at. -/
theorem told_as_done {c : StoreCall} {y : StoreM Unit} (hc : Serves copies token c y (fun _ => true)
    fun _ => ok) (hshort : Short token c) (hy : Raises Known y) {R : Prop}
    (hback : Back (fun _ => true) y s ↔ R) :
    (answer (do let _ ← (do let _ ← sent copies token c); return .none) s =
      answer (do y; return .none) s ↔ R) ∧
      final (do let _ ← (do let _ ← sent copies token c); return Value.none) s =
        final (do y; return Value.none) s := by
  have hdecoded : ∀ b : Unit, (fun _ => pure ()) ok = (pure b : StoreM Unit) := fun _ => rfl
  exact told_of_serves hc hshort hdecoded hy hback fun _ => .none

/-- A response that the client hands on as it is. -/
theorem told_as_json {c : StoreCall} {y : StoreM β} {good : β → Bool} {json : β → Json}
    (hc : Serves copies token c y good json) (hshort : Short token c) (hy : Raises Known y)
    {R : Prop} (hback : Back good y s ↔ R) :
    (answer (do return .json (← sent copies token c)) s =
      answer (do return .json (json (← y))) s ↔ R) ∧
      final (do return Value.json (← sent copies token c)) s =
        final (do return Value.json (json (← y))) s := by
  have hdecoded : ∀ b, (pure (json b) : StoreM Json) = pure (json b) := fun _ => rfl
  have htold := told_of_serves hc hshort hdecoded hy hback .json
  rwa [bind_pure] at htold

end Sent

/-! ## What comes back -/

def pointed (s : Store) (group : String) : Option ConfigVersion :=
  (s.desiredState.get? group).bind s.find

def Copied (v : Option ConfigVersion) : Prop := ∀ w ∈ v, shallow copies w = true

/-- The request is one that the server's store answers as the store itself does, and the answer
one that can be encoded. -/
def Returned (s : Store) : StoreCall → Prop
  | .propose _ fields _ _ => copies (.dict fields.stored.entries) = true
  | .promote _ id | .rollback _ id => Store.binds s.configVersion id = true
  | .desired group => group ≠ "" ∧ Copied copies (pointed s group)
  | .desiredFor replicaId group =>
    if group = "" then
      ∃ o, s.replicaOverride.get? replicaId = some o ∧ s.find o.versionId = none ∧
        fits o.versionId = true
    else if replicaId = "" then
      Copied copies (pointed s group) ∧ ∀ o, s.replicaOverride.get? "" = some o →
        s.desiredState.get? group = some o.versionId
    else match s.replicaOverride.get? replicaId with
      | none => Copied copies (pointed s group)
      | some o => Store.binds s.configVersion o.versionId = true ∧ Copied copies (s.find o.versionId)
  | .version id => Store.binds s.configVersion id = true ∧ Copied copies (s.find id)
  | .versions group => group ≠ "" ∧ ∀ r ∈ s.configVersion.rows, r.2.replicaGroup = group →
      copies (.dict r.2.fields.entries) = true
  | .recordStatus _ _ applied _ _ => ∀ id ∈ applied, Store.binds s.configVersion id = true
  | .status group => group ≠ ""
  | .openCanary _ candidateId _ _ _ => Store.binds s.configVersion candidateId = true
  | .canary id | .closeCanary id _ _ | .clearOverrides id => Store.binds s.canaryTable id = true
  | .setOverrides replicaIds versionId canaryId =>
    replicaIds = [] ∨
      Store.binds s.configVersion versionId = true ∧ Store.binds s.canaryTable canaryId = true

section Back

variable {copies token} {s : Store}

theorem caught_missing_binds {ρ : Type} {table : SerialTable ρ} {id : Int}
    (h : table.get? id = none) (what : String) :
    Caught (Store.missing what id) ↔ Store.binds table id = true :=
  (caught_missing_iff what id).trans (binds_iff_of_none h).symm

theorem get?_of_find_none {id : Int} (h : s.find id = none) : s.configVersion.get? id = none :=
  Option.map_eq_none_iff.mp h

theorem binds_of_find {id : Int} {v : ConfigVersion} (h : s.find id = some v) :
    Store.binds s.configVersion id = true := Store.binds_row (Store.find_eq_some_iff.mp h).1

theorem copied_some {v : ConfigVersion} : Copied copies (some v) ↔ shallow copies v = true :=
  ⟨fun h => h v rfl, fun h _ hw => Option.some.inj hw ▸ h⟩

theorem copied_none : Copied copies none := fun _ h => by cases h

theorem all_iff_copied (v : Option ConfigVersion) :
    v.all (shallow copies) = true ↔ Copied copies v := by
  cases v with
  | none => exact iff_of_true rfl copied_none
  | some v => exact copied_some.symm

theorem back_version (id : Int) : Back (shallow copies) (Store.version id) s ↔
    Store.binds s.configVersion id = true ∧ Copied copies (s.find id) := by
  unfold Back
  rw [Store.version_run]
  cases hv : s.find id with
  | none =>
    have hbinds := caught_missing_binds (get?_of_find_none hv) "no config_version "
    exact hbinds.trans (and_iff_left copied_none).symm
  | some v => exact copied_some.symm.trans (and_iff_right (binds_of_find hv)).symm

theorem desired_pointed (hs : History s) (group : String) :
    (Store.desired group).run s = .ok (pointed s group) s := by
  unfold pointed
  rw [Store.desired_run]
  cases hp : s.desiredState.get? group with
  | none => rfl
  | some id =>
    obtain ⟨v, hv, -⟩ := hs.desired_own group id hp
    simp only [Option.bind_some, hv]

theorem back_desired (hs : History s) (group : String) :
    Back (·.all (shallow copies)) (Store.desired group) s ↔ Copied copies (pointed s group) := by
  unfold Back
  rw [desired_pointed hs]
  exact all_iff_copied _

theorem back_desiredFor (hs : History s) (replicaId group : String) :
    Back (·.all (shallow copies)) (Store.desiredFor replicaId group) s ↔
      match s.replicaOverride.get? replicaId with
      | none => Copied copies (pointed s group)
      | some o =>
        Store.binds s.configVersion o.versionId = true ∧ Copied copies (s.find o.versionId) := by
  unfold Back
  rw [Store.desiredFor_run]
  cases s.replicaOverride.get? replicaId with
  | none =>
    rw [desired_pointed hs]
    exact all_iff_copied _
  | some o =>
    dsimp only
    cases hv : s.find o.versionId with
    | none =>
      have hbinds := caught_missing_binds (get?_of_find_none hv) "no config_version "
      exact hbinds.trans (and_iff_left copied_none).symm
    | some v => exact copied_some.symm.trans (and_iff_right (binds_of_find hv)).symm

theorem back_propose (hs : History s) (group : String) (fields : Fields)
    (createdBy reason : String) :
    Back (shallow copies) (Store.propose group fields createdBy reason) s ↔
      copies (.dict fields.stored.entries) = true := by
  unfold Back
  rw [Store.propose_run, desired_pointed hs]
  rfl

theorem back_promote (group : String) (id : Int) :
    Back (fun _ => true) (Store.promote group id) s ↔ Store.binds s.configVersion id = true := by
  unfold Back
  rw [Store.promote_run]
  cases hv : s.find id with
  | none => exact caught_missing_binds (get?_of_find_none hv) "no config_version "
  | some v =>
    by_cases hown : v.replicaGroup = group
    · simp only [if_pos hown, binds_of_find hv]
    · simp only [if_neg hown, binds_of_find hv]
      exact iff_of_true trivial trivial

theorem back_versions (group : String) :
    Back (·.all (shallow copies)) (Store.versions group) s ↔ ∀ r ∈ s.configVersion.rows,
      r.2.replicaGroup = group → copies (.dict r.2.fields.entries) = true := by
  unfold Back
  rw [Store.versions_run]
  simp only [List.all_map, List.all_eq_true, List.mem_filter, Function.comp_apply,
    decide_eq_true_eq, and_imp]
  rfl

/-- A statement whose ids are bound before it writes. -/
theorem back_of_guarded {α : Type} {y : StoreM α} {bound : Prop} [Decidable bound] {a : α}
    {t : Store} (h : y.run s = if bound then .ok a t else .error Store.tooLarge s) :
    Back (fun _ => true) y s ↔ bound := by
  unfold Back
  rw [h]
  by_cases hbound : bound
  · rw [if_pos hbound]
    exact iff_of_true rfl hbound
  · rw [if_neg hbound]
    exact iff_of_false (fun h => h) hbound

theorem back_canary (id : Int) : Back (fun _ => true) (Store.canary id) s ↔
    Store.binds s.canaryTable id = true := by
  unfold Back
  rw [Store.canary_run]
  cases hrow : s.canaryTable.get? id with
  | none => exact caught_missing_binds hrow "no canary "
  | some row => exact iff_of_true rfl (Store.binds_row hrow)

theorem back_openCanary (hs : History s) (group : String) (candidateId : Int)
    (scope : List String) (gates : List Gate) (windowS : Rat) :
    Back (fun _ => true) (Store.openCanary group candidateId scope gates windowS) s ↔
      Store.binds s.configVersion candidateId = true := by
  have hrun := Store.openCanary_run s group candidateId scope gates windowS
  rw [desired_pointed hs] at hrun
  exact back_of_guarded hrun

theorem back_setOverrides (replicaIds : List String) (versionId canaryId : Int) :
    Back (fun _ => true) (Store.setOverrides replicaIds versionId canaryId) s ↔
      replicaIds = [] ∨ Store.binds s.configVersion versionId = true ∧
        Store.binds s.canaryTable canaryId = true :=
  back_of_guarded (Store.setOverrides_run s replicaIds versionId canaryId)

theorem back_recordStatus (replicaId group : String) (applied : Option Int)
    (state detail : String) :
    Back (fun _ => true) (Store.recordStatusOf replicaId group applied state detail) s ↔
      ∀ id ∈ applied, Store.binds s.configVersion id = true := by
  refine (back_of_guarded (Store.recordStatusOf_run s replicaId group applied state detail)).trans ?_
  cases applied with
  | none => exact iff_of_true rfl fun _ h => by cases h
  | some id => simp

end Back

def writes? : StoreCall → Option StoreOp
  | .propose group fields createdBy reason => some (.propose group fields createdBy reason)
  | .promote group id => some (.promote group id)
  | .rollback group id => some (.rollback group id)
  | .recordStatus replicaId group applied state detail =>
    some (.recordStatus replicaId group applied state detail)
  | .openCanary group candidateId scope gates windowS =>
    some (.openCanary group candidateId scope gates windowS)
  | .closeCanary id newStatus decision => some (.closeCanary id newStatus decision)
  | .setOverrides replicaIds versionId canaryId => some (.setOverrides replicaIds versionId canaryId)
  | .clearOverrides canaryId => some (.clearOverrides canaryId)
  | _ => none

def storeStep (s : Store) (c : StoreCall) : Store := final c.onStore s

theorem recordStatusOf_final (s : Store) (replicaId group : String) (applied : Option Int)
    (state detail : String) :
    final (Store.recordStatusOf replicaId group applied state detail) s = s ∨
      final (Store.recordStatusOf replicaId group applied state detail) s =
        final (Store.recordStatus replicaId group applied state detail) s := by
  have hrun := Store.recordStatusOf_run s replicaId group applied state detail
  split at hrun
  · exact .inr (final_of_run_eq hrun)
  · exact .inl (final_of_error hrun)

/-- A read leaves the store, and so does a status of a version that cannot be. -/
theorem storeStep_cases (s : Store) (c : StoreCall) :
    storeStep s c = s ∨ ∃ op, writes? c = some op ∧ storeStep s c = StoreHistory.apply s op := by
  unfold storeStep
  cases c with
  | propose group fields createdBy reason =>
    exact .inr ⟨_, rfl, (final_map _ _ s).trans (final_discard _ s).symm⟩
  | openCanary group candidateId scope gates windowS =>
    exact .inr ⟨_, rfl, (final_map _ _ s).trans (final_discard _ s).symm⟩
  | desired group => exact .inl ((final_map _ _ s).trans (Store.final_desired group s))
  | desiredFor replicaId group =>
    exact .inl ((final_map _ _ s).trans (Store.final_desiredFor replicaId group s))
  | version id => exact .inl ((final_map _ _ s).trans (Store.final_version id s))
  | versions group => exact .inl ((final_map _ _ s).trans (final_of_ok (Store.versions_run s group)))
  | status group => exact .inl ((final_map _ _ s).trans (final_of_ok (Store.status_run s group)))
  | canary id => exact .inl ((final_map _ _ s).trans (Store.final_canary id s))
  | recordStatus replicaId group applied state detail =>
    refine (recordStatusOf_final s replicaId group applied state detail).imp ?_ fun h => ?_
    · exact (final_map _ _ s).trans
    · exact ⟨_, rfl, (final_map _ _ s).trans h⟩
  | _ => exact .inr ⟨_, rfl, final_map _ _ s⟩

theorem storeStep_history {s : Store} (hs : History s) (c : StoreCall) :
    History (storeStep s c) := by
  rcases storeStep_cases s c with h | ⟨op, -, h⟩
  · rwa [h]
  · rw [h]
    exact history_of_advances (apply_advances s op) hs

theorem storeStep_of_blank {c : StoreCall} (h : BlankGroup c) (s : Store) : storeStep s c = s := by
  rcases storeStep_cases s c with hs | ⟨op, hop, -⟩
  · exact hs
  · cases c with
    | desired | versions | status | desiredFor => cases hop
    | _ => exact h.elim

section Told

variable {copies token} {s : Store} {α β : Type}

/-- The caller is told the same exactly when `R` holds, and in any case the server is left with
the same store. -/
def Told (copies : Json → Bool) (token : String) (s : Store) (c : StoreCall) (R : Prop) : Prop :=
  (answer (c.onRemote copies token) s = answer c.onStore s ↔ R) ∧
    final (c.onRemote copies token) s = storeStep s c

theorem carries_openCanary {group : String} {candidateId : Int} {scope : List String}
    {gates : List Gate} {windowS : Rat}
    (h : Short token (.openCanary group candidateId scope gates windowS)) :
    Carries (fun _ => true) id (openCanary copies token group candidateId scope gates windowS)
      (Store.openCanary group candidateId scope gates windowS) :=
  carries_of_serves (serves_openCanary group candidateId scope gates windowS) h fun _ => rfl

theorem answer_of_run {y : StoreM α} {t : Store} {a : α} (h : y.run s = .ok a t)
    (value : α → Value) : answer (do return value (← y)) s = .ok (value a) := by
  unfold answer
  rw [EStateM.run_bind, h]
  rfl

theorem typeName_missing_iff (what : String) (id : Int) :
    (Store.missing what id).typeName = "KeyError" ↔ fits id = true := by
  unfold Store.missing
  split
  · rename_i hfits
    exact iff_of_true rfl hfits
  · rename_i hfits
    exact iff_of_false (by simp [Store.tooLarge, PyErr.typeName]) hfits

theorem storeStep_desiredFor (s : Store) (replicaId group : String) :
    storeStep s (.desiredFor replicaId group) = s :=
  (final_map _ _ s).trans (Store.final_desiredFor replicaId group s)

theorem pointed_eq_some_iff {group : String} {id : Int} {v : ConfigVersion}
    (hv : s.find id = some v) :
    pointed s group = some v ↔ s.desiredState.get? group = some id := by
  unfold pointed
  rw [Option.bind_eq_some_iff]
  refine ⟨?_, fun h => ⟨id, h, hv⟩⟩
  rintro ⟨n, hn, hfound⟩
  rw [hn, ← (Store.find_eq_some_iff.mp hfound).2, (Store.find_eq_some_iff.mp hv).2]

theorem answer_desiredFor (hs : History s) (replicaId group : String) :
    answer (StoreCall.desiredFor replicaId group).onStore s =
      match s.replicaOverride.get? replicaId with
      | none => .ok (.version (pointed s group))
      | some o => match s.find o.versionId with
        | none => .error (Store.missing "no config_version " o.versionId).typeName
        | some v => .ok (.version (some v)) := by
  have hrun := Store.desiredFor_run s replicaId group
  cases ho : s.replicaOverride.get? replicaId with
  | none =>
    rw [ho, desired_pointed hs] at hrun
    exact answer_of_run hrun .version
  | some o =>
    rw [ho] at hrun
    dsimp only at hrun ⊢
    cases hv : s.find o.versionId with
    | none =>
      rw [hv] at hrun
      exact (failed (error_bind hrun _)).1
    | some v =>
      rw [hv] at hrun
      exact answer_of_run hrun .version

theorem told_call (hs : History s) {c : StoreCall} (hshort : Short token c) (hb : ¬BlankGroup c)
    (hr : ∀ group, c ≠ .desiredFor "" group) : Told copies token s c (Returned copies s c) := by
  unfold Told storeStep
  cases c with
  | propose group fields createdBy reason =>
    exact told_of_serves (serves_propose group fields createdBy reason) hshort cv_versionDict
      (raises_propose group fields createdBy reason) (back_propose hs group fields createdBy reason)
      .version
  | promote group id =>
    exact told_as_done (serves_promote group id) hshort (raises_promote group id)
      (back_promote group id)
  | rollback group id =>
    exact told_as_done (serves_rollback group id) hshort (raises_promote group id)
      (back_promote group id)
  | desired group =>
    rw [Returned, and_iff_right (show group ≠ "" from hb)]
    exact told_of_serves (serves_desired hb) hshort cv_versionOrNull
      (raises_known (raises_desired group)) (back_desired hs group) .version
  | desiredFor replicaId group =>
    have hreplica : replicaId ≠ "" := fun h => hr group (h ▸ rfl)
    rw [Returned, if_neg (show group ≠ "" from hb), if_neg hreplica]
    exact told_of_serves (serves_desiredFor hreplica hb) hshort cv_versionOrNull
      (raises_known (raises_desiredFor replicaId group)) (back_desiredFor hs replicaId group)
      .version
  | version id =>
    exact told_of_serves (serves_version id) hshort cv_versionDict
      (raises_known (raises_version id)) (back_version id) .version
  | versions group =>
    rw [Returned, and_iff_right (show group ≠ "" from hb)]
    exact told_of_serves (serves_versions hb) hshort mapM_cv (raises_known (raises_versions group))
      (back_versions group) .versions
  | recordStatus replicaId group applied state detail =>
    exact told_as_done (serves_recordStatus replicaId group applied state detail) hshort
      (raises_recordStatusOf replicaId group applied state detail)
      (back_recordStatus replicaId group applied state detail)
  | status group =>
    have hback : Back (fun _ => true) (Store.status group) s ↔ group ≠ "" := iff_of_true rfl hb
    exact told_as_json (serves_status hb) hshort (raises_known (raises_status group)) hback
  | openCanary group candidateId scope gates windowS =>
    rw [Returned, ← back_openCanary hs group candidateId scope gates windowS]
    exact told_of_carries (carries_openCanary hshort)
      (raises_openCanary group candidateId scope gates windowS) .id s
  | canary id =>
    exact told_as_json (serves_canary id) hshort (raises_known (raises_canary id)) (back_canary id)
  | closeCanary id newStatus decision =>
    have hback := back_of_guarded (Store.closeCanary_run s id newStatus decision)
    exact told_as_done (serves_closeCanary id newStatus decision) hshort
      (raises_closeCanary id newStatus decision) hback
  | setOverrides replicaIds versionId canaryId =>
    exact told_as_done (serves_setOverrides replicaIds versionId canaryId) hshort
      (raises_setOverrides replicaIds versionId canaryId)
      (back_setOverrides replicaIds versionId canaryId)
  | clearOverrides canaryId =>
    have hback := back_of_guarded (Store.clearOverrides_run s canaryId)
    exact told_as_done (serves_clearOverrides canaryId) hshort
      (raises_known (raises_clearOverrides canaryId)) hback

/-- A blank group is missing to the server, and a group like any other to the store. -/
theorem told_blank (hs : History s) {c : StoreCall} (hshort : Short token c) (hb : BlankGroup c) :
    Told copies token s c (Returned copies s c) := by
  have hsent : (sent copies token c).run s = .error (.keyError (PyText.pyRepr "group")) s := by
    rw [sent_run hshort, serve_blank hb]
    rfl
  have hremote := remote_failed hsent
  refine ⟨?_, hremote.2.trans (storeStep_of_blank hb s).symm⟩
  rw [hremote.1]
  cases c with
  | desired group =>
    have hanswer := answer_of_run (desired_pointed hs group) .version
    exact iff_of_false (fun h => by cases h.trans hanswer) fun h => h.1 hb
  | versions group =>
    have hanswer := answer_of_run (Store.versions_run s group) fun vs => .versions (vs.map some)
    exact iff_of_false (fun h => by cases h.trans hanswer) fun h => h.1 hb
  | status group =>
    have hanswer := answer_of_run (Store.status_run s group) fun rows =>
      .json (.list (rows.map statusDict))
    exact iff_of_false (fun h => by cases h.trans hanswer) fun h => h hb
  | desiredFor replicaId group =>
    rw [Returned, if_pos (show group = "" from hb), answer_desiredFor hs]
    cases s.replicaOverride.get? replicaId with
    | none => exact iff_of_false (fun h => by cases h) fun ⟨_, h, _⟩ => by cases h
    | some o =>
      dsimp only
      cases hv : s.find o.versionId with
      | none =>
        have hname := typeName_missing_iff "no config_version " o.versionId
        refine ⟨fun h => ⟨o, rfl, hv, hname.mp (Except.error.inj h).symm⟩, ?_⟩
        rintro ⟨_, ⟨⟩, -, hfits⟩
        exact congrArg Except.error (hname.mpr hfits).symm
      | some v =>
        refine iff_of_false (fun h => by cases h) ?_
        rintro ⟨_, ⟨⟩, hnone, -⟩
        cases hv.symm.trans hnone
  | _ => exact hb.elim

/-- Without a replica in the query the client is told the group's version. -/
theorem told_blank_replica (hs : History s) {group : String} (hg : group ≠ "")
    (hshort : Short token (.desiredFor "" group)) :
    Told copies token s (.desiredFor "" group) (Returned copies s (.desiredFor "" group)) := by
  have hcarries : Carries (·.all (shallow copies)) id (desiredFor copies token "" group)
      (Store.desired group) := carries_of_serves (serves_blank_replica hg) hshort cv_versionOrNull
  have hrun := hcarries s
  rw [desired_pointed hs] at hrun
  dsimp only [id_eq] at hrun
  unfold Told
  rw [Returned, if_neg hg, if_pos rfl, answer_desiredFor hs]
  by_cases hcopied : Copied copies (pointed s group)
  · rw [if_pos ((all_iff_copied _).mpr hcopied)] at hrun
    have hanswer := answer_of_run hrun .version
    have hfinal : final (StoreCall.onRemote copies token (.desiredFor "" group)) s = s :=
      (final_map _ _ s).trans (final_of_ok hrun)
    refine ⟨?_, hfinal.trans (storeStep_desiredFor s "" group).symm⟩
    rw [and_iff_right hcopied]
    refine (Eq.congr_left hanswer).trans ?_
    cases s.replicaOverride.get? "" with
    | none => exact iff_of_true rfl fun _ h => by cases h
    | some o =>
      dsimp only
      cases hv : s.find o.versionId with
      | none =>
        refine iff_of_false (fun h => by cases h) fun h => ?_
        obtain ⟨v, hfound, -⟩ := hs.desired_own group o.versionId (h o rfl)
        cases hv.symm.trans hfound
      | some v =>
        constructor
        · rintro h _ ⟨⟩
          exact (pointed_eq_some_iff hv).mp (Value.version.inj (Except.ok.inj h))
        · intro h
          rw [(pointed_eq_some_iff hv).mpr (h o rfl)]
  · rw [if_neg fun h => hcopied ((all_iff_copied _).mp h)] at hrun
    have hremote : answer (StoreCall.onRemote copies token (.desiredFor "" group)) s =
        .error "OSError" ∧ final (StoreCall.onRemote copies token (.desiredFor "" group)) s = s :=
      failed (error_bind hrun _)
    refine ⟨iff_of_false ?_ fun h => hcopied h.1,
      hremote.2.trans (storeStep_desiredFor s "" group).symm⟩
    rw [hremote.1]
    cases s.replicaOverride.get? "" with
    | none => exact fun h => by cases h
    | some o =>
      dsimp only
      cases s.find o.versionId with
      | none =>
        have hknown := known_of_queried (queried_missing "no config_version " o.versionId)
        exact fun h => typeName_ne_of_known hknown (Except.error.inj h)
      | some v => exact fun h => by cases h

theorem told (hs : History s) {c : StoreCall} (hshort : Short token c) :
    Told copies token s c (Returned copies s c) := by
  by_cases hb : BlankGroup c
  · exact told_blank hs hshort hb
  by_cases hr : ∃ group, c = .desiredFor "" group
  · obtain ⟨group, rfl⟩ := hr
    exact told_blank_replica hs hb hshort
  · exact told_call hs hshort hb fun group h => hr ⟨group, h⟩

/-! ### Lines that are too long -/

theorem typeName_ne_of_queried {e : PyErr} (h : Queried e) : "ValueError" ≠ e.typeName := by
  cases e with
  | keyError msg | overflowError msg => simp [PyErr.typeName]
  | _ => exact h.elim

theorem answer_of_queried {y : StoreM β} (hy : Raises Queried y) (value : β → Value) :
    answer (do return value (← y)) s ≠ .error "ValueError" := by
  unfold answer
  rw [EStateM.run_bind]
  cases hrun : y.run s with
  | ok b t => exact fun h => by cases h
  | error e t => exact fun h => typeName_ne_of_queried (hy s e t hrun) (Except.error.inj h).symm

theorem posts_short : ∀ path ∈ ["/v1/propose", "/v1/promote", "/v1/rollback", "/v1/status",
    "/v1/canary/open", "/v1/canary/close", "/v1/overrides"],
    lineLength .post path [] ≤ maxLine := by decide +kernel

/-- A line that is too long is a client's `ValueError`, which no query of the store raises. -/
theorem told_long {c : StoreCall} (h : ¬Short token c) :
    answer (c.onRemote copies token) s ≠ answer c.onStore s := by
  rw [(remote_failed (sent_long h s)).1]
  cases c with
  | desired group => exact (answer_of_queried (raises_desired group) _).symm
  | desiredFor replicaId group =>
    exact (answer_of_queried (raises_desiredFor replicaId group) _).symm
  | version id => exact (answer_of_queried (raises_version id) _).symm
  | versions group => exact (answer_of_queried (raises_versions group) _).symm
  | status group => exact (answer_of_queried (raises_status group) _).symm
  | canary id => exact (answer_of_queried (raises_canary id) _).symm
  | clearOverrides canaryId => exact (answer_of_queried (raises_clearOverrides canaryId) _).symm
  | _ => exact absurd (posts_short _ (by simp [request])) h

end Told

def Carried (s : Store) (c : StoreCall) : Prop := Short token c ∧ Returned copies s c

theorem carried_iff {s : Store} (hs : History s) (c : StoreCall) :
    answer (c.onRemote copies token) s = answer c.onStore s ↔ Carried copies token s c := by
  by_cases hshort : Short token c
  · exact (told hs hshort).1.trans (and_iff_right hshort).symm
  · exact iff_of_false (told_long hshort) fun h => hshort h.1

/-! ## Sequences of calls -/

def remoteStep (s : Store) (c : StoreCall) : Store := final (c.onRemote copies token) s

/-- A sequence of calls through the client, on a store that other parties have written
before, gives the results, the exceptions and the final store of the same calls on the store
itself, exactly when every call is carried. -/
theorem remote_is_store (copies : Json → Bool) (token : String) (before : List PlaneOp)
    (calls : List StoreCall) :
    (replies (remoteStep copies token) (fun s c => answer (c.onRemote copies token) s)
        (run PlaneOp.apply Store.empty before) calls =
      replies storeStep (fun s c => answer c.onStore s) (run PlaneOp.apply Store.empty before) calls ∧
      run (remoteStep copies token) (run PlaneOp.apply Store.empty before) calls =
        run storeStep (run PlaneOp.apply Store.empty before) calls) ↔
      Along storeStep (Carried copies token) (run PlaneOp.apply Store.empty before) calls :=
  replies_run_eq_iff (fun _ c hs => storeStep_history hs c) (fun _ c hs => carried_iff copies token hs c)
    (fun _ _ hs hc => (told hs hc.1).2) (PlaneOp.history_run before)

/-- The desired version of the group with the blank name. -/
theorem blank_group_refused : ¬∀ (copies : Json → Bool) (token : String) (before : List PlaneOp)
    (calls : List StoreCall),
    replies (remoteStep copies token) (fun s c => answer (c.onRemote copies token) s)
        (run PlaneOp.apply Store.empty before) calls =
      replies storeStep (fun s c => answer c.onStore s) (run PlaneOp.apply Store.empty before) calls ∧
      run (remoteStep copies token) (run PlaneOp.apply Store.empty before) calls =
        run storeStep (run PlaneOp.apply Store.empty before) calls := by
  intro h
  have hfirst := (h (fun _ => true) "secret" [] [.desired ""]).1
  have hremote : answer ((StoreCall.desired "").onRemote (fun _ => true) "secret") Store.empty =
      .error "KeyError" := by decide +kernel
  have hstore : answer (StoreCall.desired "").onStore Store.empty = .ok (.version none) := rfl
  change [answer _ Store.empty] = [answer _ Store.empty] at hfirst
  rw [hremote, hstore] at hfirst
  cases hfirst

end Trimtab.RemoteStore
