import Trimtab.CanaryOverrides
import Trimtab.StoreTables
import Trimtab.ServerHistory

set_option autoImplicit false

/-!
# The handler over the tables, and the handler over the store

A client's calls get the same responses from both, one call after the other.
-/
namespace Trimtab.SqlStore.Handler
open PyText Effects Runs StoreHistory RemoteStore

/-! ## What a client's request does to the store -/

section Requests

variable {copies : Json → Bool} {token : String} {s : Store}

theorem final_serves {β : Type} {c : StoreCall} {y : StoreM β} {good : β → Bool} {json : β → Json}
    (h : Serves copies token c y good json) (value : β → Value)
    (hstore : c.onStore = do return value (← y)) :
    final (serve copies token c) s = storeStep s c := by
  rw [h, storeStep, hstore, final_map, final_bind]
  unfold final
  cases y.run s with
  | ok b t => exact final_encoded good json b t
  | error e t => rfl

theorem final_serve (c : StoreCall) : final (serve copies token c) s = storeStep s c := by
  by_cases hb : BlankGroup c
  · rw [serve_blank hb, storeStep_of_blank hb]
    rfl
  cases c with
  | propose group fields createdBy reason =>
    exact final_serves (serves_propose group fields createdBy reason) (fun v => .version v) rfl
  | promote group n => exact final_serves (serves_promote group n) (fun _ => .none) rfl
  | rollback group n => exact final_serves (serves_rollback group n) (fun _ => .none) rfl
  | desired group => exact final_serves (serves_desired hb) .version rfl
  | desiredFor replicaId group =>
    by_cases hr : replicaId = ""
    · subst hr
      have hdesired : final (serve copies token (.desiredFor "" group)) s = s := by
        rw [serves_blank_replica hb, final_bind]
        rcases Store.desired_reads s group with ⟨d, hd⟩ | ⟨e, he⟩
        · rw [hd]
          exact final_encoded _ _ d s
        · rw [he]
      exact hdesired.trans (storeStep_desiredFor s "" group).symm
    · exact final_serves (serves_desiredFor hr hb) .version rfl
  | version n => exact final_serves (serves_version n) (fun v => .version v) rfl
  | versions group =>
    exact final_serves (serves_versions hb) (fun vs => .versions (vs.map some)) rfl
  | recordStatus replicaId group applied state detail =>
    exact final_serves (serves_recordStatus replicaId group applied state detail)
      (fun _ => .none) rfl
  | status group =>
    exact final_serves (serves_status hb) (fun rows => .json (.list (rows.map Server.statusDict))) rfl
  | openCanary group n scope gates windowS =>
    exact final_serves (serves_openCanary group n scope gates windowS) .id rfl
  | canary n =>
    exact final_serves (serves_canary n) (fun row => .json (Server.canaryDict n row)) rfl
  | closeCanary n status decision =>
    exact final_serves (serves_closeCanary n status decision) (fun _ => .none) rfl
  | setOverrides replicaIds n m =>
    exact final_serves (serves_setOverrides replicaIds n m) (fun _ => .none) rfl
  | clearOverrides m => exact final_serves (serves_clearOverrides m) (fun _ => .none) rfl

theorem route_step (c : StoreCall) :
    (Server.route copies token (request token c) s).2 = storeStep s c := by
  rw [route_request, ← @final_serve copies token s c]
  unfold final
  cases (serve copies token c).run s with
  | ok v t => rfl
  | error e t => cases e <;> rfl

end Requests

/-! ## The two dispatchers -/

/-- The texts of the call are UTF-8 and its numbers SQLite's. -/
def Bindable (P : Platform) : StoreCall → Prop
  | .propose group _ createdBy reason => Utf8 P group ∧ Utf8 P createdBy ∧ Utf8 P reason
  | .promote group n | .rollback group n => Utf8 P group ∧ Fits n
  | .desired group | .versions group | .status group => Utf8 P group
  | .desiredFor replicaId group => Utf8 P replicaId ∧ Utf8 P group
  | .version n | .canary n | .clearOverrides n => Fits n
  | .recordStatus replicaId group applied state detail =>
    (Utf8 P replicaId ∧ Utf8 P group ∧ Utf8 P state ∧ Utf8 P detail) ∧ ∀ n ∈ applied, Fits n
  | .openCanary group n _ _ _ => Utf8 P group ∧ Fits n
  | .closeCanary n status decision => Fits n ∧ Utf8 P status ∧ Utf8 P decision
  | .setOverrides replicaIds n m => (∀ r ∈ replicaIds, Utf8 P r) ∧ Fits n ∧ Fits m

section Dispatch

variable {P : Platform} {s : Store}

theorem digits_few {n : Nat} (h : n < 10 ^ 19) : (Nat.toDigits 10 n).length ≤ 19 :=
  (Nat.length_toDigits_le_iff (by decide) (by decide)).mpr h

theorem repr_length {n : Int} (h : Fits n) : n.repr.toList.length ≤ 20 := by
  simp only [Fits, fits, Bool.and_eq_true, decide_eq_true_eq] at h
  cases n with
  | ofNat m =>
    have hm : (m : Int) < 2 ^ 63 := h.2
    have hdigits := digits_few (n := m) (by omega)
    have hlist : (Int.ofNat m).repr.toList = Nat.toDigits 10 m := Nat.toList_repr
    rw [hlist]
    omega
  | negSucc m =>
    have hdigits := digits_few (n := m + 1) (by omega)
    have hlist : (Int.negSucc m).repr.toList = '-' :: Nat.toDigits 10 (m + 1) := by
      simp [Int.repr, String.toList_append, Nat.toList_repr]
    rw [hlist, List.length_cons]
    omega

theorem toInt_repr {n : Int} (h : Fits n) : toInt (.str n.repr) = .ok n := by
  rw [toInt, Json.asInt, textToInt_repr ((repr_length h).trans (by decide))]
  rfl

theorem versionDict_image (v : Trimtab.ConfigVersion) :
    versionDict (configVersion v) = Server.versionDict v := by
  obtain ⟨⟨group, parent, fields, createdBy, reason⟩, id⟩ := v
  cases parent <;> rfl

/-- What is encoded on either side is too deep on both or on neither. -/
abbrev EncodesAlike {α β : Type} (val : α → β) (good : α → Bool) (json : α → Json)
    (encode : β → TablesM Json) : Prop :=
  ∀ a t, Follows id t (encoded good json a) (encode (val a))

theorem asdict_alike :
    EncodesAlike configVersion (shallow P.copies) Server.versionDict (asdict P) := by
  intro v t
  unfold asdict encoded
  have hfields : P.copies (configVersion v).fields = shallow P.copies v := rfl
  rw [hfields, versionDict_image]
  split
  · exact mirrors_pure rfl
  · exact mirrors_throw rfl

theorem versionOrNull_alike : EncodesAlike (Option.map configVersion) (·.all (shallow P.copies))
    (fun v => (v.map Server.versionDict).getD .null) (versionOrNull P) := by
  intro v t
  cases v with
  | none => exact mirrors_pure rfl
  | some v => exact asdict_alike v t

theorem asdicts_alike : EncodesAlike (List.map configVersion) (·.all (shallow P.copies))
    (fun vs => .list (vs.map Server.versionDict))
    fun vs => do return .list (← vs.mapM (asdict P)) := by
  intro vs t
  rw [← list_asdict]
  have hdicts : Follows (List.map id) t (vs.mapM (Server.asdict P.copies))
      ((vs.map configVersion).mapM (asdict P)) :=
    mirrors_mapM (fun v _ => asdict_alike v t) fun v _ =>
      final_encoded (shallow P.copies) Server.versionDict v t
  exact mirrors_map hdicts fun as => congrArg Json.list (List.map_id as)

/-- The two programs that serve a call. -/
abbrev Agrees (P : Platform) (token : String) (s : Store) (c : StoreCall) : Prop :=
  Follows id s (serve P.copies token c)
    (dispatch P (request token c).method (request token c).path
      (Server.firstValues (request token c).query) (.dict (requestBody (request token c))))

/-- A call that either dispatcher serves by one method of the store. -/
theorem agrees_of_served {α β : Type} {token : String} {c : StoreCall} {val : α → β}
    {x : StoreM α} {y : TablesM β} {good : α → Bool} {json : α → Json} {encode : β → TablesM Json}
    (hx : Serves P.copies token c x good json)
    (hy : dispatch P (request token c).method (request token c).path
      (Server.firstValues (request token c).query) (.dict (requestBody (request token c))) =
        y >>= encode) (h : Follows val s x y) (hencode : EncodesAlike val good json encode) :
    Agrees P token s c := by
  unfold Agrees
  rw [hx, hy]
  exact mirrors_bind h fun a t _ => hencode a t

/-- A result that is encoded whatever it is. -/
theorem json_alike {α β : Type} {val : α → β} {json : α → Json} {g : β → Json}
    (h : ∀ a, g (val a) = json a) :
    EncodesAlike val (fun _ => true) json fun b => pure (g b) :=
  fun a _ => mirrors_pure (h a)

theorem agrees_propose (hs : Ranged s) (hnew : Fits s.configVersion.nextId) (token : String)
    {group createdBy reason : String} (hg : Utf8 P group) (hc : Utf8 P createdBy)
    (hr : Utf8 P reason) (fields : Fields) :
    Agrees P token s (.propose group fields createdBy reason) := by
  refine agrees_of_served (serves_propose group fields createdBy reason) ?_
    (follows_propose hs hg hc hr hnew fields) asdict_alike
  simp [request, requestBody, dispatch, item, getOr, List.lookup_cons, ofExcept]

theorem agrees_promote (token : String) {group : String} {n : Int} (hg : Utf8 P group)
    (hn : Fits n) : Agrees P token s (.promote group n) := by
  refine agrees_of_served (serves_promote group n) ?_ (follows_promote hg hn)
    (json_alike (g := fun _ => Server.ok) fun _ => rfl)
  simp [request, requestBody, dispatch, item, List.lookup_cons, ofExcept, toInt, python,
    Json.asInt]

theorem agrees_rollback (token : String) {group : String} {n : Int} (hg : Utf8 P group)
    (hn : Fits n) : Agrees P token s (.rollback group n) := by
  refine agrees_of_served (serves_rollback group n) ?_ (follows_promote hg hn)
    (json_alike (g := fun _ => Server.ok) fun _ => rfl)
  simp [request, requestBody, dispatch, item, List.lookup_cons, ofExcept, toInt, python,
    Json.asInt, rollback]

/-- A query whose group is blank has none. -/
theorem agrees_blank (token : String) {c : StoreCall} (h : BlankGroup c) : Agrees P token s c := by
  unfold Agrees
  rw [serve_blank h]
  have hmissing : dispatch P (request token c).method (request token c).path
      (Server.firstValues (request token c).query) (.dict (requestBody (request token c))) =
        throw (.python (.keyError "group")) := by
    cases c with
    | desired group | versions group | status group =>
      cases h
      rfl
    | desiredFor replicaId group =>
      cases h
      by_cases hr : replicaId = ""
      · subst hr
        rfl
      · have hq : Server.firstValues [("group", ""), ("replica", replicaId)] =
            [("replica", replicaId)] := firstValues_one hr
        simp [request, dispatch, hq, hr, queryItem, ofExcept, List.lookup_cons]
        rfl
    | _ => exact h.elim
  rw [hmissing]
  exact mirrors_throw rfl

theorem agrees_desired (hs : Ranged s) (token : String) {group : String} (hg : Utf8 P group) :
    Agrees P token s (.desired group) := by
  by_cases hblank : group = ""
  · exact agrees_blank token hblank
  · have hq : Server.firstValues [("group", group)] = [("group", group)] := firstValues_one hblank
    refine agrees_of_served (serves_desired hblank) ?_ (follows_desired hs hg) versionOrNull_alike
    simp [request, dispatch, hq, queryItem, ofExcept]

theorem agrees_desiredFor (hs : Ranged s) (token : String) {replicaId group : String}
    (hr : Utf8 P replicaId) (hg : Utf8 P group) :
    Agrees P token s (.desiredFor replicaId group) := by
  by_cases hblank : group = ""
  · exact agrees_blank token hblank
  by_cases hreplica : replicaId = ""
  · subst hreplica
    have hq : Server.firstValues [("group", group), ("replica", "")] = [("group", group)] :=
      firstValues_one hblank
    refine agrees_of_served (serves_blank_replica hblank) ?_ (follows_desired hs hg)
      versionOrNull_alike
    simp [request, dispatch, hq, queryItem, ofExcept]
  · have hq := firstValues_two (j := "group") (k := "replica") (by decide) hblank hreplica
    refine agrees_of_served (serves_desiredFor hreplica hblank) ?_ (follows_desiredFor hs hr hg)
      versionOrNull_alike
    simp [request, dispatch, hq, hreplica, queryItem, ofExcept, List.lookup_cons]

theorem agrees_version (token : String) {n : Int} (hn : Fits n) :
    Agrees P token s (.version n) := by
  have hq : Server.firstValues [("id", n.repr)] = [("id", n.repr)] :=
    firstValues_one (repr_ne_blank n)
  refine agrees_of_served (serves_version n) ?_ (follows_version (P := P) hn) asdict_alike
  simp [request, dispatch, hq, queryItem, ofExcept, toInt_repr hn]

theorem agrees_versions (hs : Ranged s) (token : String) {group : String} (hg : Utf8 P group) :
    Agrees P token s (.versions group) := by
  by_cases hblank : group = ""
  · exact agrees_blank token hblank
  · have hq : Server.firstValues [("group", group)] = [("group", group)] := firstValues_one hblank
    refine agrees_of_served (serves_versions hblank) ?_ (follows_versions hs hg) asdicts_alike
    simp [request, dispatch, hq, queryItem, ofExcept]

theorem agrees_recordStatus (hP : Library P) (token : String)
    {replicaId group state detail : String} {applied : Option Int} (hr : Utf8 P replicaId)
    (hg : Utf8 P group) (hst : Utf8 P state) (hd : Utf8 P detail) (ha : ∀ n ∈ applied, Fits n) :
    Agrees P token s (.recordStatus replicaId group applied state detail) := by
  refine agrees_of_served (serves_recordStatus replicaId group applied state detail) ?_
    (follows_recordStatus hP hr hg hst hd ha) (json_alike (g := fun _ => Server.ok) fun _ => rfl)
  cases applied <;> simp [request, requestBody, dispatch, item, getOr, List.lookup_cons,
    ofExcept, Server.intOrNull, intOrNull]

theorem statusDict_image (r : String × Trimtab.StatusRow) :
    statusDict (some r.1, statusRow r.2) = Server.statusDict r := by
  obtain ⟨k, group, applied, state, detail⟩ := r
  cases applied <;> rfl

theorem statusDicts_image (rows : List (String × Trimtab.StatusRow)) :
    Json.list ((rows.map fun r => (some r.1, statusRow r.2)).map statusDict) =
      .list (rows.map Server.statusDict) := by
  rw [List.map_map]
  exact congrArg Json.list (List.map_congr_left fun r _ => statusDict_image r)

theorem agrees_status (token : String) {group : String} (hg : Utf8 P group) :
    Agrees P token s (.status group) := by
  by_cases hblank : group = ""
  · exact agrees_blank token hblank
  · have hq : Server.firstValues [("group", group)] = [("group", group)] := firstValues_one hblank
    refine agrees_of_served (serves_status hblank) ?_ (follows_status hg)
      (json_alike (g := fun rows => .list (rows.map statusDict)) statusDicts_image)
    simp [request, dispatch, hq, queryItem, ofExcept]

theorem agrees_openCanary (hP : Library P) (hs : Ranged s) (token : String) {group : String}
    (hg : Utf8 P group) {candidateId : Int} (hn : Fits candidateId) (scope : List String)
    (gates : List Gate) (windowS : Rat) :
    Agrees P token s (.openCanary group candidateId scope gates windowS) := by
  refine agrees_of_served (serves_openCanary group candidateId scope gates windowS) ?_
    (follows_openCanary hP hs hg hn scope gates windowS)
    (json_alike (g := fun n => .dict [("id", .int n)]) fun _ => rfl)
  simp [request, requestBody, dispatch, item, List.lookup_cons, ofExcept, toInt, toFloat, python,
    Json.asInt, Json.asFloat, Json.toFloat]

theorem canaryDict_image (n : Int) (row : Trimtab.CanaryRow) :
    canaryDict n (canaryRow row) = Server.canaryDict n row := by
  obtain ⟨group, candidate, baseline, scope, gates, windowS, status, decision⟩ := row
  cases baseline <;> rfl

theorem agrees_canary (token : String) {n : Int} (hn : Fits n) :
    Agrees P token s (.canary n) := by
  have hq : Server.firstValues [("id", n.repr)] = [("id", n.repr)] :=
    firstValues_one (repr_ne_blank n)
  refine agrees_of_served (serves_canary n) ?_ (follows_canary (P := P) hn)
    (json_alike (g := canaryDict n) (canaryDict_image n))
  simp [request, dispatch, hq, queryItem, ofExcept, toInt_repr hn]

theorem agrees_closeCanary (token : String) {n : Int} {status decision : String} (hn : Fits n)
    (hst : Utf8 P status) (hd : Utf8 P decision) :
    Agrees P token s (.closeCanary n status decision) := by
  refine agrees_of_served (serves_closeCanary n status decision) ?_ (follows_closeCanary hn hst hd)
    (json_alike (g := fun _ => Server.ok) fun _ => rfl)
  simp [request, requestBody, dispatch, item, getOr, List.lookup_cons, ofExcept, toInt, python,
    Json.asInt]

theorem agrees_setOverrides (token : String) {replicaIds : List String} {n m : Int}
    (hr : ∀ r ∈ replicaIds, Utf8 P r) (hn : Fits n) (hm : Fits m) :
    Agrees P token s (.setOverrides replicaIds n m) := by
  refine agrees_of_served (serves_setOverrides replicaIds n m) ?_ (follows_setOverrides hr hn hm)
    (json_alike (g := fun _ => Server.ok) fun _ => rfl)
  simp [request, requestBody, dispatch, item, List.lookup_cons, ofExcept, toInt, python,
    Json.asInt]

theorem agrees_clearOverrides (token : String) {n : Int} (hn : Fits n) :
    Agrees P token s (.clearOverrides n) := by
  have hq : Server.firstValues [("canary_id", n.repr)] = [("canary_id", n.repr)] :=
    firstValues_one (repr_ne_blank n)
  refine agrees_of_served (serves_clearOverrides n) ?_ (follows_clearOverrides (P := P) hn)
    (json_alike (g := fun _ => Server.ok) fun _ => rfl)
  simp [request, dispatch, hq, queryItem, ofExcept, toInt_repr hn]

theorem agrees (hP : Library P) (hs : Ranged s) (hnew : Fits s.configVersion.nextId)
    (token : String) {c : StoreCall} (hc : Bindable P c) : Agrees P token s c := by
  cases c with
  | propose group fields createdBy reason =>
    exact agrees_propose hs hnew token hc.1 hc.2.1 hc.2.2 fields
  | promote group n => exact agrees_promote token hc.1 hc.2
  | rollback group n => exact agrees_rollback token hc.1 hc.2
  | desired group => exact agrees_desired hs token hc
  | desiredFor replicaId group => exact agrees_desiredFor hs token hc.1 hc.2
  | version n => exact agrees_version token hc
  | versions group => exact agrees_versions hs token hc
  | recordStatus replicaId group applied state detail =>
    exact agrees_recordStatus hP token hc.1.1 hc.1.2.1 hc.1.2.2.1 hc.1.2.2.2 hc.2
  | status group => exact agrees_status token hc
  | openCanary group n scope gates windowS =>
    exact agrees_openCanary hP hs token hc.1 hc.2 scope gates windowS
  | canary n => exact agrees_canary token hc
  | closeCanary n status decision => exact agrees_closeCanary token hc.1 hc.2.1 hc.2.2
  | setOverrides replicaIds n m => exact agrees_setOverrides token hc.1 hc.2.1 hc.2.2
  | clearOverrides n => exact agrees_clearOverrides token hc

end Dispatch

/-! ## One request -/

section Served

variable {P : Platform} {token : String} {s : Store}

/-- The bytes of `r` are the request of the call. -/
structure Sends (P : Platform) (token : String) (r : HttpRequest) (c : StoreCall) : Prop where
  method : r.method = (request token c).method
  authorization : r.authorization = some ("Bearer " ++ token)
  content : parsed P r = .ok ((request token c).path, Server.firstValues (request token c).query,
    .dict (requestBody (request token c)))

def reply (P : Platform) (token : String) (s : Tables) (r : HttpRequest) : Option Response :=
  (final (route P token r) ⟨s, []⟩).sent.head?

/-- The same response, and the tables of the store that is left. -/
theorem served_as_store {r : HttpRequest} {c : StoreCall} (hr : Sends P token r c)
    (h : Agrees P token s c) :
    reply P token (tables s) r = (Server.route P.copies token (request token c) s).1 ∧
      served P token (tables s) r =
        tables (Server.route P.copies token (request token c) s).2 := by
  have hauth : authorized token r = true := by
    simp [authorized, hr.authorization]
  have hrun := route_authorized (P := P) hauth (tables s)
  rw [hr.content, hr.method] at hrun
  simp only [respond_run] at hrun
  unfold reply served final
  rw [hrun, h, route_request]
  cases (serve P.copies token c).run s with
  | ok v t => exact ⟨rfl, rfl⟩
  | error e t => cases e <;> exact ⟨rfl, rfl⟩

/-! ## Call after call -/

/-- At most `k` versions, and no number on record that is out of range. -/
structure Within (k : Int) (s : Store) : Prop where
  versions : s.configVersion.seq ≤ k
  pointers : ∀ group n, s.desiredState.get? group = some n → Fits n
  overrides : ∀ r o, s.replicaOverride.get? r = some o → Fits o.versionId

theorem ranged_of_within {k : Int} (h : Within k s) (hk : k < 2 ^ 63) : Ranged s where
  versions := by
    have hseq := h.versions
    have hnonneg := s.configVersion.seq_nonneg
    simp only [Fits, fits, Bool.and_eq_true, decide_eq_true_eq]
    omega
  pointers := h.pointers
  overrides := h.overrides

theorem override_of_apply {op : StoreOp} {r : String} {o : Trimtab.OverrideRow}
    (h : (StoreHistory.apply s op).replicaOverride.get? r = some o) :
    s.replicaOverride.get? r = some o ∨ ∃ rs m, op = .setOverrides rs o.versionId m := by
  cases op with
  | propose group fields createdBy reason =>
    rw [StoreHistory.apply, StoreOp.exec, final_discard,
      (CanaryOverrides.propose_keeps s group fields createdBy reason).1] at h
    exact .inl h
  | promote group n | rollback group n =>
    have hkept := (CanaryOverrides.promote_keeps s group n).1
    exact .inl (hkept ▸ h)
  | setOverrides rs n m =>
    rw [StoreHistory.apply, StoreOp.exec] at h
    rcases Store.setOverrides_final s rs n m with hs | hs <;> rw [hs] at h
    · exact .inl h
    · rw [Dict.get?_foldl_insert_const] at h
      split at h
      · cases h
        exact .inr ⟨rs, m, rfl⟩
      · exact .inl h
  | clearOverrides m =>
    rw [StoreHistory.apply, StoreOp.exec] at h
    rcases Store.clearOverrides_final s m with hs | hs <;> rw [hs] at h
    · exact .inl h
    · rw [Dict.get?_filter, Option.filter_eq_some_iff] at h
      exact .inl h.1
  | openCanary group n scope gates windowS =>
    rw [StoreHistory.apply, StoreOp.exec, final_discard] at h
    rcases Store.openCanary_final s group n scope gates windowS with hs | ⟨base, -, hs⟩ <;>
      rw [hs] at h <;> exact .inl h
  | closeCanary n status decision =>
    rw [StoreHistory.apply, StoreOp.exec, Store.closeCanary_final] at h
    exact .inl h
  | recordStatus replicaId group applied state detail => exact .inl h

theorem seq_of_advances {t : Store} (h : Advances s t) :
    t.configVersion.seq ≤ s.configVersion.seq + 1 := by
  cases h with
  | kept versions desired =>
    rw [versions]
    omega
  | proposed row parent read lineage versions desired =>
    rw [versions]
    exact le_refl _
  | pointed v found versions desired =>
    rw [versions]
    omega

theorem pointer_of_advances {t : Store} (h : Advances s t) (hs : Ranged s) {group : String} {n : Int}
    (hn : t.desiredState.get? group = some n) : Fits n := by
  cases h with
  | kept versions desired => exact hs.pointers group n (desired ▸ hn)
  | proposed row parent read lineage versions desired => exact hs.pointers group n (desired ▸ hn)
  | pointed v found versions desired =>
    rw [desired, Dict.get?_insert] at hn
    split at hn
    · cases hn
      exact fits_of_issued hs (Store.find_eq_some_iff.mp found).1
    · exact hs.pointers group n hn

theorem within_step {k : Int} (h : Within k s) (hk : k < 2 ^ 63) {c : StoreCall}
    (hc : Bindable P c) : Within (k + 1) (storeStep s c) := by
  have hseq := h.versions
  rcases storeStep_cases s c with hstep | ⟨op, hop, hstep⟩ <;> rw [hstep]
  · exact ⟨hseq.trans (by omega), h.pointers, h.overrides⟩
  · have hadvances := apply_advances s op
    have hnext := seq_of_advances hadvances
    refine ⟨?_, fun group n hn => pointer_of_advances hadvances (ranged_of_within h hk) hn,
      fun r o ho => ?_⟩
    · omega
    · rcases override_of_apply ho with hold | ⟨rs, m, rfl⟩
      · exact h.overrides r o hold
      · cases c with
        | setOverrides rs' n' m' =>
          cases hop
          exact hc.2.1
        | _ => cases hop

theorem within_empty : Within 0 Store.empty where
  versions := le_refl _
  pointers _ _ h := by cases h
  overrides _ _ h := by cases h

def storeReply (copies : Json → Bool) (token : String) (s : Store) (c : StoreCall) :
    Option Response :=
  (Server.route copies token (request token c) s).1

theorem served_step (hP : Library P) {k : Int} (h : Within k s) (hk : k < 2 ^ 63 - 1)
    {r : HttpRequest} {c : StoreCall} (hr : Sends P token r c) (hc : Bindable P c) :
    reply P token (tables s) r = storeReply P.copies token s c ∧
      served P token (tables s) r = tables (storeStep s c) := by
  have hs : Ranged s := ranged_of_within h (by omega)
  have hnew : Fits s.configVersion.nextId := by
    have hseq := h.versions
    have hnonneg := s.configVersion.seq_nonneg
    unfold SerialTable.nextId
    simp only [Fits, fits, Bool.and_eq_true, decide_eq_true_eq]
    omega
  have hstep := served_as_store hr (agrees hP hs hnew token hc)
  rw [route_step] at hstep
  exact hstep

theorem served_run (hP : Library P) {k : Int} (h : Within k s) (calls : List (HttpRequest × StoreCall))
    (hk : k + calls.length < 2 ^ 63) (hr : ∀ p ∈ calls, Sends P token p.1 p.2)
    (hc : ∀ p ∈ calls, Bindable P p.2) :
    replies (served P token) (reply P token) (tables s) (calls.map Prod.fst) =
        replies storeStep (storeReply P.copies token) s (calls.map Prod.snd) ∧
      run (served P token) (tables s) (calls.map Prod.fst) =
        tables (run storeStep s (calls.map Prod.snd)) := by
  induction calls generalizing k s with
  | nil => exact ⟨rfl, rfl⟩
  | cons p calls ih =>
    rw [List.length_cons, Nat.cast_add] at hk
    have hstep := served_step hP h (by omega) (hr p List.mem_cons_self) (hc p List.mem_cons_self)
    have hrest := ih (within_step h (by omega) (hc p List.mem_cons_self)) (by omega)
      (fun q hq => hr q (List.mem_cons_of_mem p hq)) fun q hq => hc q (List.mem_cons_of_mem p hq)
    rw [List.map_cons, List.map_cons, run_cons, run_cons, replies, replies, hstep.1, hstep.2,
      hrest.1]
    exact ⟨rfl, hrest.2⟩

end Served

/-- From the empty store on, whatever calls a client makes: the handler over SQLite's tables
gives the responses of the handler over the store, and keeps the tables of that store. -/
theorem handler_refines_store (P : Platform) (hP : Library P) (token : String)
    (calls : List (HttpRequest × StoreCall)) (hfew : calls.length < 2 ^ 63)
    (hsends : ∀ p ∈ calls, Sends P token p.1 p.2) (hbindable : ∀ p ∈ calls, Bindable P p.2) :
    replies (served P token) (reply P token) noRows (calls.map Prod.fst) =
        replies storeStep (storeReply P.copies token) Store.empty (calls.map Prod.snd) ∧
      run (served P token) noRows (calls.map Prod.fst) =
        tables (run storeStep Store.empty (calls.map Prod.snd)) := by
  exact @served_run P token Store.empty hP 0 within_empty calls (by omega) hsends hbindable

def promoteBytes : List UInt8 :=
  [123, 34, 103, 114, 111, 117, 112, 34, 58, 34, 112, 114, 111, 100, 34, 44, 34, 118, 101, 114, 115,
    105, 111, 110, 95, 105, 100, 34, 58, 49, 125]

def reading : Platform := { queried with
  loads := fun bytes =>
    if bytes = promoteBytes then .ok (.dict [("group", .str "prod"), ("version_id", .int 1)])
    else .error (.valueError "Expecting value: line 1 column 1 (char 0)")
  sorted := fun vs =>
    match vs.mapM Server.str? with
    | some ts => .ok ((ts.insertionSort (· ≤ ·)).map .str)
    | none => .error (.typeError "'<' not supported between instances") }

theorem library_reading : Library reading where
  sorted ts := by
    have htexts : (ts.map Json.str).mapM Server.str? = some ts := list?_texts ts
    simp only [reading, htexts]
  integers n := rfl

def promoteProd : HttpRequest :=
  ⟨.post, "/v1/promote", some "Bearer secret", some "31", promoteBytes⟩

/-- A version that is not there is promoted, and the desired one asked for. -/
theorem two_calls_refined :
    replies (served reading "secret") (reply reading "secret") noRows [promoteProd, prodDesired] =
        replies storeStep (storeReply reading.copies "secret") Store.empty [.promote "prod" 1, .desired "prod"] ∧
      run (served reading "secret") noRows [promoteProd, prodDesired] =
        tables (run storeStep Store.empty [.promote "prod" 1, .desired "prod"]) := by
  refine handler_refines_store reading library_reading "secret"
    [(promoteProd, .promote "prod" 1), (prodDesired, .desired "prod")] (by decide) ?_ ?_
  · refine List.forall_mem_cons.mpr ⟨⟨rfl, rfl, ?_⟩, List.forall_mem_singleton.mpr ⟨rfl, rfl, ?_⟩⟩
    · decide +kernel
    · decide +kernel
  · exact List.forall_mem_cons.mpr ⟨⟨rfl, rfl⟩, List.forall_mem_singleton.mpr rfl⟩

end Trimtab.SqlStore.Handler
