import Trimtab.Runs
import Trimtab.ServerRequests

set_option autoImplicit false

/-!
# The store behind the handler, over any requests

What one request can do to the tables, said once, and what follows for a server that has answered
any number of them, well-formed or not.
-/
namespace Trimtab.SqlStore.Handler
open PyText Effects Checks Runs

/-- A write of one row, or of all rows of a canary. -/
inductive Change (s : Tables) : Tables → Prop where
  | proposed (row : VersionRow) (parent : row.parentId = s.desiredState.get? row.replicaGroup) :
      Change s { s with configVersion := s.configVersion.insert row }
  | promoted (n : Int) (row : VersionRow) (found : s.configVersion.get? n = some row) :
      Change s { s with desiredState := s.desiredState.insert row.replicaGroup n }
  | overrides (t : Keyed OverrideRow) : Change s { s with replicaOverride := t }
  | opened (row : CanaryRow) : Change s { s with canaryTable := s.canaryTable.insert row }
  | closed (id : Int) (status decision : String) : Change s { s with
      canaryTable := s.canaryTable.modify id fun row => { row with status, decision } }
  | recorded (t : Keyed StatusRow) : Change s { s with replicaStatus := t }

abbrev Changes : Tables → Tables → Prop := Relation.ReflTransGen Change

section Methods

variable {P : Platform} {s : Tables} {α : Type}

theorem changes_check {β : Type} {y : TablesM α} {f : α → TablesM β} {x : Except Fault α}
    (hy : Reads y s x) (hf : ∀ a, x = .ok a → Changes s (final (f a) s)) :
    Changes s (final (y >>= f) s) := related_check hy .refl hf

theorem changes_param {v : Json} {f : SqlValue → TablesM α}
    (hf : ∀ w, bind P v = .ok w → Changes s (final (f w) s)) :
    Changes s (final (param P v >>= f) s) := changes_check (reads_ofExcept _ _) hf

theorem notNull_ok {column : String} {o : Option α} {a : α} (h : notNull column o = .ok a) :
    o = some a := by
  cases o with
  | none => cases h
  | some b => exact congrArg some (Except.ok.inj h)

theorem changes_textColumn {column : String} {w : SqlValue} {f : String → TablesM α}
    (hf : ∀ t, w.asText P = some t → Changes s (final (f t) s)) :
    Changes s (final (textColumn P column w >>= f) s) :=
  changes_check (reads_ofExcept _ _) fun t ht => hf t (notNull_ok ht)

theorem desiredOf_pointer {group : Json} {v : Option ConfigVersion}
    (h : desiredOf P s group = .ok v) :
    v.map (·.id) = (textOf P group).bind s.desiredState.get? := by
  obtain ⟨w, -, h⟩ := ok_of_bind h
  cases hn : (textOf P group).bind s.desiredState.get? with
  | none =>
    rw [hn] at h
    cases h
    rfl
  | some n =>
    rw [hn] at h
    obtain ⟨row, hrow, h⟩ := ok_of_bind h
    cases h
    exact congrArg some (versionOf_ok hrow).2.1

theorem changes_propose (group fields createdBy reason : Json) :
    Changes s (final (propose P group fields createdBy reason) s) := by
  unfold propose
  refine changes_check (reads_desired group) fun parent hparent => ?_
  refine changes_param fun g hg => changes_param fun p _ => changes_param fun c _ => ?_
  refine changes_param fun r _ => changes_textColumn fun gt hgt => ?_
  refine changes_textColumn fun ct _ => changes_textColumn fun rt _ => ?_
  have hpointer := desiredOf_pointer hparent
  rw [← asText_of_bind hg, hgt] at hpointer
  have hread : ∀ t : Tables, final (version P s.configVersion.nextId) t = t :=
    fun t => final_reads (reads_version _)
  change Changes s (final (version P s.configVersion.nextId) _)
  rw [hread]
  exact .single (.proposed _ hpointer)

theorem changes_promote (group : Json) (n : Int) : Changes s (final (promote P group n) s) := by
  unfold promote
  refine changes_check (reads_version n) fun v hv => ?_
  obtain ⟨-, rfl, hrow⟩ := versionOf_ok hv
  by_cases hgroup : Json.str v.replicaGroup ≠ group
  · simp only [if_pos hgroup]
    exact .refl
  · simp only [if_neg hgroup]
    exact changes_param fun w _ => .single (.promoted v.id v.toVersionRow hrow)

theorem changes_setOverride (versionId canaryId : Int) (r : Json) :
    Changes s (final (setOverride P versionId canaryId r) s) := by
  unfold setOverride
  exact changes_param fun w _ => changes_param fun v _ => changes_param fun c _ =>
    .single (.overrides _)

theorem changes_setOverrides (replicaIds : Json) (versionId canaryId : Int) :
    Changes s (final (setOverrides P replicaIds versionId canaryId) s) := by
  unfold setOverrides
  refine changes_check (reads_ofExcept _ _) fun rs _ => ?_
  exact respects_forM (fun _ => .refl) (fun _ _ _ h h' => h.trans h')
    (fun r t => changes_setOverride versionId canaryId r) rs s

theorem changes_clearOverrides (n : Int) : Changes s (final (clearOverrides P n) s) := by
  unfold clearOverrides
  exact changes_param fun w _ => .single (.overrides _)

theorem changes_openCanary (group : Json) (n : Int) (scope gates : Json) (x : PyFloat) :
    Changes s (final (openCanary P group n scope gates x) s) := by
  unfold openCanary
  refine changes_check (reads_desired group) fun base _ => ?_
  refine changes_check (reads_ofExcept _ _) fun xs _ => ?_
  refine changes_check (reads_ofExcept _ _) fun ys _ => ?_
  refine changes_param fun g _ => changes_param fun c _ => changes_param fun b _ => ?_
  refine changes_param fun w _ => changes_textColumn fun gt _ => ?_
  refine changes_check (reads_ofExcept _ _) fun y _ => ?_
  exact .single (.opened _)

theorem changes_closeCanary (n : Int) (status decision : Json) :
    Changes s (final (closeCanary P n status decision) s) := by
  unfold closeCanary
  refine changes_param fun st _ => changes_param fun d _ => changes_param fun w _ => ?_
  change Changes s (final (if (s.canaryTable.get? n).isSome then _ else _) s)
  by_cases hrow : (s.canaryTable.get? n).isSome = true
  · rw [if_pos hrow]
    refine changes_textColumn fun stText _ => changes_textColumn fun dText _ => ?_
    exact .single (.closed n stText dText)
  · rw [if_neg hrow]
    exact .refl

theorem changes_recordStatus (replicaId group applied state detail : Json) :
    Changes s (final (recordStatus P replicaId group applied state detail) s) := by
  unfold recordStatus
  refine changes_param fun r _ => changes_param fun g _ => changes_param fun v _ => ?_
  refine changes_param fun st _ => changes_param fun d _ => changes_textColumn fun gText _ => ?_
  refine changes_textColumn fun stText _ => changes_textColumn fun dText _ => ?_
  exact .single (.recorded _)

theorem changes_map {β : Type} {x : TablesM α} (h : Changes s (final x s)) (f : α → β) :
    Changes s (final (do return f (← x)) s) := by
  rw [final_map]
  exact h

theorem changes_return {β : Type} {x : TablesM α} (h : Changes s (final x s)) (b : β) :
    Changes s (final (do let _ ← x; return b) s) := changes_map h fun _ => b

theorem changes_read {β : Type} {x : TablesM α} {y : Except Fault α} (h : Reads x s y)
    (f : α → β) : Changes s (final (do return f (← x)) s) := by
  rw [final_map, final_reads h]

/-! `asdict` writes nothing. -/

theorem final_asdict (v : ConfigVersion) (t : Tables) : final (asdict P v) t = t :=
  final_reads (reads_asdict v)

theorem final_versionOrNull (v : Option ConfigVersion) (t : Tables) :
    final (versionOrNull P v) t = t := by
  cases v with
  | none => rfl
  | some v => exact final_asdict v t

theorem final_asdicts (vs : List ConfigVersion) (t : Tables) :
    final (do return Json.list (← vs.mapM (asdict P))) t = t := by
  rw [final_map, final_reads (reads_mapM fun v _ => reads_asdict v)]

theorem changes_shown {β : Type} {x : TablesM α} {f : α → TablesM β}
    (h : Changes s (final x s)) (hf : ∀ a t, final (f a) t = t) :
    Changes s (final (x >>= f) s) := by
  rw [final_bind]
  unfold final at h
  cases hx : x.run s with
  | ok a t =>
    rw [hx] at h
    dsimp only
    rwa [hf]
  | error e t => rwa [hx] at h

theorem changes_read_shown {β : Type} {x : TablesM α} {y : Except Fault α} {f : α → TablesM β}
    (h : Reads x s y) (hf : ∀ a t, final (f a) t = t) : Changes s (final (x >>= f) s) := by
  refine changes_shown ?_ hf
  rw [final_reads h]

theorem reads_versions (group : Json) : ∃ x, Reads (versions P group) s x := by
  refine ⟨do
    let w ← bind P group
    (s.configVersion.rows.filter fun r => some r.2.replicaGroup = w.asText P).mapM
      fun r => versionOf P s r.1, reads_bind (reads_ofExcept _ _) fun w _ => reads_get_bind ?_⟩
  exact reads_mapM fun r _ => reads_version r.1

theorem reads_status (group : Json) : ∃ x, Reads (status P group) s x :=
  ⟨_, reads_bind (reads_ofExcept _ _) fun _ _ => reads_get_bind (reads_ofExcept (.ok _) _)⟩

theorem reads_canaryRow (n : Int) : ∃ x, Reads (canary P n) s x := by
  refine ⟨do
    let _ ← bind P (.int n)
    (s.canaryTable.get? n).elim
      (.error (.python (.keyError ("no canary " ++ toString n)))) .ok,
    reads_bind (reads_ofExcept _ _) fun w _ => reads_get_bind ?_⟩
  cases s.canaryTable.get? n <;> rfl

theorem changes_item {b : Json} {key : String} {f : Json → TablesM α}
    (h : ∀ v, Changes s (final (f v) s)) : Changes s (final (ofExcept (item b key) >>= f) s) :=
  changes_check (reads_ofExcept _ _) fun v _ => h v

theorem changes_getOr {b : Json} {key : String} {dflt : Json} {f : Json → TablesM α}
    (h : ∀ v, Changes s (final (f v) s)) :
    Changes s (final (ofExcept (getOr b key dflt) >>= f) s) :=
  changes_check (reads_ofExcept _ _) fun v _ => h v

theorem changes_toInt {v : Json} {f : Int → TablesM α} (h : ∀ n, Changes s (final (f n) s)) :
    Changes s (final (ofExcept (toInt v) >>= f) s) :=
  changes_check (reads_ofExcept _ _) fun n _ => h n

theorem changes_queryItem {q : List (String × String)} {key : String} {f : String → TablesM α}
    (h : ∀ v, Changes s (final (f v) s)) :
    Changes s (final (ofExcept (queryItem q key) >>= f) s) :=
  changes_check (reads_ofExcept _ _) fun v _ => h v

theorem changes_desired (q : List (String × String)) :
    Changes s (final (do
      let group ← ofExcept (queryItem q "group")
      versionOrNull P (← desired P (.str group))) s) :=
  changes_queryItem fun group => changes_read_shown (reads_desired (.str group)) final_versionOrNull

theorem dispatch_changes (method : Method) (path : String) (q : List (String × String)) (b : Json) :
    Changes s (final (dispatch P method path q b) s) := by
  unfold dispatch
  by_cases h : path = "/health"
  · rw [if_pos h]
    exact .refl
  rw [if_neg h]
  by_cases h : method = .post ∧ path = "/v1/propose"
  · rw [if_pos h]
    exact changes_item fun g => changes_item fun f => changes_getOr fun c => changes_getOr fun r =>
      changes_shown (changes_propose g f c r) final_asdict
  rw [if_neg h]
  by_cases h : method = .post ∧ path = "/v1/promote"
  · rw [if_pos h]
    exact changes_item fun g => changes_item fun v => changes_toInt fun n =>
      changes_return (changes_promote g n) Server.ok
  rw [if_neg h]
  by_cases h : method = .post ∧ path = "/v1/rollback"
  · rw [if_pos h]
    exact changes_item fun g => changes_item fun v => changes_toInt fun n =>
      changes_return (changes_promote g n) Server.ok
  rw [if_neg h]
  by_cases h : method = .get ∧ path = "/v1/desired"
  · rw [if_pos h]
    cases q.lookup "replica" with
    | none => exact changes_desired q
    | some replica =>
      simp only
      split
      · exact changes_desired q
      · exact changes_queryItem fun group =>
          changes_read_shown (reads_desiredFor (.str replica) (.str group)) final_versionOrNull
  rw [if_neg h]
  by_cases h : method = .get ∧ path = "/v1/version"
  · rw [if_pos h]
    exact changes_queryItem fun v => changes_toInt fun n =>
      changes_read_shown (reads_version n) final_asdict
  rw [if_neg h]
  by_cases h : method = .get ∧ path = "/v1/versions"
  · rw [if_pos h]
    refine changes_queryItem fun group => ?_
    exact (reads_versions (.str group)).elim fun x hx => changes_read_shown hx final_asdicts
  rw [if_neg h]
  by_cases h : method = .post ∧ path = "/v1/status"
  · rw [if_pos h]
    exact changes_item fun r => changes_item fun g => changes_getOr fun v => changes_item fun st =>
      changes_getOr fun d => changes_return (changes_recordStatus r g v st d) Server.ok
  rw [if_neg h]
  by_cases h : method = .get ∧ path = "/v1/status"
  · rw [if_pos h]
    refine changes_queryItem fun group => ?_
    exact (reads_status (.str group)).elim fun x hx => changes_read hx _
  rw [if_neg h]
  by_cases h : method = .post ∧ path = "/v1/canary/open"
  · rw [if_pos h]
    refine changes_item fun g => changes_item fun v => changes_toInt fun n => ?_
    refine changes_item fun scope => changes_item fun gates => changes_item fun w => ?_
    refine changes_check (reads_ofExcept _ _) fun x _ => ?_
    exact changes_map (changes_openCanary g n scope gates x) _
  rw [if_neg h]
  by_cases h : method = .get ∧ path = "/v1/canary"
  · rw [if_pos h]
    refine changes_queryItem fun v => changes_toInt fun n => ?_
    exact (reads_canaryRow n).elim fun x hx => changes_read hx _
  rw [if_neg h]
  by_cases h : method = .post ∧ path = "/v1/canary/close"
  · rw [if_pos h]
    exact changes_item fun v => changes_toInt fun n => changes_item fun st => changes_getOr fun d =>
      changes_return (changes_closeCanary n st d) Server.ok
  rw [if_neg h]
  by_cases h : method = .post ∧ path = "/v1/overrides"
  · rw [if_pos h]
    exact changes_item fun rs => changes_item fun v => changes_toInt fun n => changes_item fun c =>
      changes_toInt fun m => changes_return (changes_setOverrides rs n m) Server.ok
  rw [if_neg h]
  by_cases h : method = .delete ∧ path = "/v1/overrides"
  · rw [if_pos h]
    exact changes_queryItem fun c => changes_toInt fun n =>
      changes_return (changes_clearOverrides n) Server.ok
  rw [if_neg h]
  exact .refl

end Methods

/-! ## One request after the other -/

section Requests

variable (P : Platform) (token : String)

def served (s : Tables) (r : HttpRequest) : Tables := (final (route P token r) ⟨s, []⟩).store

variable {P token} {s : Tables}

theorem final_respond (method : Method) (path : String) (q : List (String × String)) (b : Json) :
    (final (respond P method path q b) ⟨s, []⟩).store = final (dispatch P method path q b) s := by
  unfold final
  rw [respond_run]
  cases (dispatch P method path q b).run s with
  | ok v t => rfl
  | error e t =>
    simp only
    cases answer? e <;> rfl

/-- A request does nothing, or what its dispatch does. -/
theorem served_eq (s : Tables) (r : HttpRequest) : served P token s r = s ∨
    authorized token r = true ∧ ∃ path q b, parsed P r = .ok (path, q, b) ∧
      served P token s r = final (dispatch P r.method path q b) s := by
  unfold served
  cases hauth : authorized token r with
  | false =>
    left
    rw [final_of_ok (route_unauthorized hauth s)]
  | true =>
    have hroute := route_authorized (P := P) hauth s
    cases hparsed : parsed P r with
    | error e =>
      rw [hparsed] at hroute
      left
      rw [final_of_error hroute]
    | ok p =>
      rw [hparsed] at hroute
      right
      refine ⟨rfl, p.1, p.2.1, p.2.2, rfl, ?_⟩
      rw [← final_respond, final_of_run_eq hroute]

theorem served_changes (s : Tables) (r : HttpRequest) : Changes s (served P token s r) := by
  rcases @served_eq P token s r with h | ⟨-, path, q, b, -, h⟩
  · rw [h]
  · rw [h]
    exact dispatch_changes ..

/-! ### What is kept -/

/-- The versions are the first rows of the later table, and a canary keeps all but its status and
its decision. -/
structure Kept (s t : Tables) : Prop where
  versions : s.configVersion.rows <+: t.configVersion.rows
  canaries : ∀ id row, s.canaryTable.get? id = some row → ∃ status decision,
    t.canaryTable.get? id = some { row with status, decision }

theorem kept_refl (s : Tables) : Kept s s :=
  ⟨List.prefix_rfl, fun _ row h => ⟨row.status, row.decision, h⟩⟩

theorem kept_trans {s t u : Tables} (h : Kept s t) (h' : Kept t u) : Kept s u where
  versions := h.versions.trans h'.versions
  canaries id row hrow := by
    obtain ⟨status, decision, ht⟩ := h.canaries id row hrow
    obtain ⟨status', decision', hu⟩ := h'.canaries id _ ht
    exact ⟨status', decision', hu⟩

theorem kept_change {s t : Tables} (h : Change s t) : Kept s t := by
  cases h with
  | proposed row parent => exact ⟨List.prefix_append _ _, (kept_refl s).canaries⟩
  | promoted n row found => exact ⟨List.prefix_rfl, (kept_refl s).canaries⟩
  | overrides t => exact ⟨List.prefix_rfl, (kept_refl s).canaries⟩
  | opened row =>
    refine ⟨List.prefix_rfl, fun id old hold => ⟨old.status, old.decision, ?_⟩⟩
    exact SerialTable.get?_insert_of_some hold row
  | closed id status decision =>
    refine ⟨List.prefix_rfl, fun id' old hold => ?_⟩
    by_cases hid : id' = id
    · subst hid
      exact ⟨status, decision, by simp only [SerialTable.get?_modify_self, hold, Option.map_some]⟩
    · exact ⟨old.status, old.decision,
        (SerialTable.get?_modify_of_ne _ _ hid).trans hold⟩
  | recorded t => exact ⟨List.prefix_rfl, (kept_refl s).canaries⟩

theorem kept_changes {s t : Tables} (h : Changes s t) : Kept s t := by
  induction h with
  | refl => exact kept_refl s
  | tail _ hstep ih => exact kept_trans ih (kept_change hstep)

/-- No request, whatever its bytes, takes a version back or alters what a canary compares. -/
theorem requests_append_only (P : Platform) (token : String) (rs : List HttpRequest) (s : Tables) :
    Kept s (run (served P token) s rs) := by
  induction rs generalizing s with
  | nil => exact kept_refl s
  | cons r rs ih => exact kept_trans (kept_changes (served_changes s r)) (ih _)

/-! ### What the rows point at -/

/-- A group's pointer is to a version of its own, and a version's parent is an older one of the
same group. -/
structure Sound (s : Tables) : Prop where
  pointers : ∀ group n, s.desiredState.get? group = some n →
    ∃ row, s.configVersion.get? n = some row ∧ row.replicaGroup = group
  parents : ∀ n row p, s.configVersion.get? n = some row → row.parentId = some p →
    p < n ∧ ∃ parent, s.configVersion.get? p = some parent ∧
      parent.replicaGroup = row.replicaGroup

theorem sound_noRows : Sound noRows where
  pointers _ _ h := by cases h
  parents _ _ _ h := by cases h

theorem sound_proposed (h : Sound s) {row : VersionRow}
    (hparent : row.parentId = s.desiredState.get? row.replicaGroup) :
    Sound { s with configVersion := s.configVersion.insert row } where
  pointers group n hn := by
    obtain ⟨old, hold, hgroup⟩ := h.pointers group n hn
    exact ⟨old, SerialTable.get?_insert_of_some hold row, hgroup⟩
  parents n row' p hrow hp := by
    rw [SerialTable.get?_insert] at hrow
    split at hrow
    · rename_i hn
      cases hrow
      rw [hparent] at hp
      obtain ⟨old, hold, hgroup⟩ := h.pointers _ p hp
      refine ⟨hn ▸ (SerialTable.issued_of_get? hold).2, old, ?_, hgroup⟩
      exact SerialTable.get?_insert_of_some hold row
    · obtain ⟨hlt, parent, hfound, hgroup⟩ := h.parents n row' p hrow hp
      exact ⟨hlt, parent, SerialTable.get?_insert_of_some hfound row, hgroup⟩

theorem sound_change {t : Tables} (h : Sound s) (hstep : Change s t) : Sound t := by
  cases hstep with
  | proposed row parent => exact sound_proposed h parent
  | promoted n row found =>
    refine ⟨fun group m hm => ?_, h.parents⟩
    rw [Dict.get?_insert] at hm
    split at hm
    · rename_i hgroup
      cases hm
      exact ⟨row, found, hgroup.symm⟩
    · exact h.pointers group m hm
  | overrides t => exact ⟨h.pointers, h.parents⟩
  | opened row => exact ⟨h.pointers, h.parents⟩
  | closed id status decision => exact ⟨h.pointers, h.parents⟩
  | recorded t => exact ⟨h.pointers, h.parents⟩

theorem sound_changes {t : Tables} (h : Sound s) (hsteps : Changes s t) : Sound t := by
  induction hsteps with
  | refl => exact h
  | tail _ hstep ih => exact sound_change ih hstep

theorem sound_run {rs : List HttpRequest} (h : Sound s) : Sound (run (served P token) s rs) := by
  induction rs generalizing s with
  | nil => exact h
  | cons r rs ih => exact ih (sound_changes h (served_changes s r))

/-- From the empty store on, over any requests. -/
theorem requests_sound (P : Platform) (token : String) (rs : List HttpRequest) :
    Sound (run (served P token) noRows rs) := sound_run sound_noRows

/-! ### What a `GET` does, and what it needs no token for -/

theorem stays_queryItem {α : Type} {q : List (String × String)} {key : String}
    {f : String → TablesM α} (h : ∀ v, final (f v) s = s) :
    final (ofExcept (queryItem q key) >>= f) s = s :=
  related_check (R := fun s t => t = s) (reads_ofExcept _ _) rfl fun v _ => h v

theorem stays_toInt {α : Type} {v : Json} {f : Int → TablesM α} (h : ∀ n, final (f n) s = s) :
    final (ofExcept (toInt v) >>= f) s = s :=
  related_check (R := fun s t => t = s) (reads_ofExcept _ _) rfl fun n _ => h n

theorem stays_read {α β : Type} {x : TablesM α} {y : Except Fault α} (h : Reads x s y)
    (f : α → β) : final (do return f (← x)) s = s := by
  rw [final_map, final_reads h]

theorem stays_shown {α β : Type} {x : TablesM α} {y : Except Fault α} {f : α → TablesM β}
    (h : Reads x s y) (hf : ∀ a t, final (f a) t = t) : final (x >>= f) s = s :=
  related_check (R := fun s t => t = s) h rfl fun a _ => hf a s

theorem dispatch_get (path : String) (q : List (String × String)) (b : Json) :
    final (dispatch P .get path q b) s = s := by
  simp only [dispatch, reduceCtorEq, false_and, if_false, true_and]
  split
  · rfl
  split
  · have hdesired : final (do
        let group ← ofExcept (queryItem q "group")
        versionOrNull P (← desired P (.str group))) s = s :=
      stays_queryItem fun group => stays_shown (reads_desired (.str group)) final_versionOrNull
    cases q.lookup "replica" with
    | none => exact hdesired
    | some replica =>
      simp only
      split
      · exact hdesired
      · exact stays_queryItem fun group =>
          stays_shown (reads_desiredFor (.str replica) (.str group)) final_versionOrNull
  split
  · exact stays_queryItem fun v => stays_toInt fun n => stays_shown (reads_version n) final_asdict
  split
  · refine stays_queryItem fun group => ?_
    exact (reads_versions (.str group)).elim fun x hx => stays_shown hx final_asdicts
  split
  · refine stays_queryItem fun group => ?_
    exact (reads_status (.str group)).elim fun x hx => stays_read hx _
  split
  · refine stays_queryItem fun v => stays_toInt fun n => ?_
    exact (reads_canaryRow n).elim fun x hx => stays_read hx _
  · rfl

theorem dispatch_health (method : Method) (q : List (String × String)) (b : Json) :
    final (dispatch P method "/health" q b) s = s := by
  unfold dispatch
  rw [if_pos rfl]
  rfl

theorem parsed_path {r : HttpRequest} {path : String} {q : List (String × String)} {b : Json}
    (h : parsed P r = .ok (path, q, b)) : P.urlparse r.target = .ok (path, q) := by
  unfold parsed at h
  obtain ⟨p, hp, h⟩ := ok_of_bind h
  have hpair : p.1 = path ∧ p.2 = q := by
    by_cases hget : r.method = .get
    · simp only [if_pos hget] at h
      cases h
      exact ⟨rfl, rfl⟩
    · simp only [if_neg hget] at h
      obtain ⟨b', -, h⟩ := ok_of_bind h
      cases h
      exact ⟨rfl, rfl⟩
  cases hu : P.urlparse r.target with
  | error e =>
    rw [hu] at hp
    cases hp
  | ok p' =>
    rw [hu] at hp
    rw [Except.ok.inj hp, ← hpair.1, ← hpair.2]

theorem parsed_get {r : HttpRequest} (hget : r.method = .get) {path : String}
    {q : List (String × String)} (h : P.urlparse r.target = .ok (path, q)) :
    parsed P r = .ok (path, q, .dict []) := by
  unfold parsed
  rw [h]
  simp only [if_pos hget]
  rfl

/-- A request that writes has the token and is no `GET`. -/
theorem writer_authorized (hhealth : ∀ p, P.urlparse "/health" = .ok p → p.1 = "/health")
    {r : HttpRequest} (hwrites : served P token s r ≠ s) :
    r.authorization = some ("Bearer " ++ token) ∧ r.method ≠ .get := by
  rcases @served_eq P token s r with h | ⟨hauth, path, q, b, hparsed, h⟩
  · exact absurd h hwrites
  rw [h] at hwrites
  refine ⟨?_, fun hget => hwrites ?_⟩
  · by_contra hbearer
    have htarget : r.target = "/health" := by
      simpa only [authorized, hbearer, decide_false, Bool.or_false, decide_eq_true_eq] using hauth
    have hpath := parsed_path hparsed
    rw [htarget] at hpath
    obtain rfl : path = "/health" := hhealth _ hpath
    exact hwrites (dispatch_health r.method q b)
  · rw [hget]
    exact dispatch_get path q b

/-- Requests that only read, or that lack the token, leave the store as it is. -/
theorem readers_change_nothing (P : Platform) (token : String)
    (hhealth : ∀ p, P.urlparse "/health" = .ok p → p.1 = "/health") (rs : List HttpRequest)
    (hrs : ∀ r ∈ rs, r.authorization = some ("Bearer " ++ token) → r.method = .get) (s : Tables) :
    run (served P token) s rs = s := by
  induction rs with
  | nil => rfl
  | cons r rs ih =>
    have hstays : served P token s r = s := by
      by_contra hwrites
      have hwriter := writer_authorized hhealth hwrites
      exact hwriter.2 (hrs r List.mem_cons_self hwriter.1)
    rw [run_cons, hstays]
    exact ih fun r' hr' => hrs r' (List.mem_cons_of_mem r hr')

def oneVersion : Tables := { noRows with
  configVersion := (∅ : SerialTable VersionRow).insert ⟨"prod", none, .dict [], "alice", ""⟩ }

/-- A stranger's request to promote, and a probe. -/
theorem stranger_changes_nothing : run (served plain "secret") oneVersion
    [⟨.post, "/v1/promote", some "Bearer guess", some "1", [123]⟩,
      ⟨.get, "/health", none, none, []⟩] = oneVersion := by
  refine readers_change_nothing plain "secret" (fun p hp => ?_) _ ?_ _
  · cases hp
    rfl
  · decide +kernel

/-! ### A group's desired version is always served -/

theorem ok_of_outcome_fine {α : Type} {x : TablesM α} (h : outcomeAt s x = .fine) :
    ∃ v t, x.run s = .ok v t := by
  unfold outcomeAt outcome at h
  cases hx : x.run s with
  | ok v t => exact ⟨v, t, rfl⟩
  | error e t =>
    rw [hx] at h
    simp only at h
    split at h <;> cases h

theorem found_fine {n : Int} {row : VersionRow} (hrow : s.configVersion.get? n = some row)
    (hfew : fits s.configVersion.seq = true) : found P s n = .fine := by
  have hn := SerialTable.issued_of_get? hrow
  have hfits : fits n = true := by
    unfold SerialTable.nextId at hn
    simp only [fits, Bool.and_eq_true, decide_eq_true_eq] at hfew ⊢
    omega
  simp only [found, bound, hfits, hrow, if_true, Option.isSome_some, first_fine, first_nil]

theorem pointed_fine (h : Sound s) (hfew : fits s.configVersion.seq = true) {group : String}
    (htext : P.encodeError group = none) : pointed P s (.str group) = .fine := by
  have hgroup : textOf P (.str group) = some group := by
    simp only [textOf, bind, htext]
    rfl
  simp only [pointed, bound, htext, Option.isSome_none, Bool.false_eq_true, if_false, first_fine,
    hgroup, Option.bind_some, first_singleton]
  cases hn : s.desiredState.get? group with
  | none => rfl
  | some n =>
    obtain ⟨row, hrow, -⟩ := h.pointers group n hn
    exact found_fine hrow hfew

theorem copiedDesired_fine {group : String} (htext : P.encodeError group = none)
    (hcopies : ∀ n row, s.desiredState.get? group = some n → s.configVersion.get? n = some row →
      P.copies row.fields = true) : copiedDesired P s (.str group) = .fine := by
  have hgroup : textOf P (.str group) = some group := by
    simp only [textOf, bind, htext]
    rfl
  unfold copiedDesired
  rw [hgroup, Option.bind_some]
  cases hn : s.desiredState.get? group with
  | none => rfl
  | some n =>
    dsimp only
    unfold copiedVersion
    cases hrow : s.configVersion.get? n with
    | none => rfl
    | some row => exact if_pos (hcopies n row hn hrow)

/-- After any requests, a client that asks for a group's desired version gets one or a null. -/
theorem desired_answered (P : Platform) (token : String) (rs : List HttpRequest) (r : HttpRequest)
    (q : List (String × String)) (group : String) (hauth : authorized token r = true)
    (hget : r.method = .get) (htarget : P.urlparse r.target = .ok ("/v1/desired", q))
    (hgroup : q.lookup "group" = some group) (hreplica : q.lookup "replica" = none)
    (htext : P.encodeError group = none)
    (hfew : fits (run (served P token) noRows rs).configVersion.seq = true)
    (hcopies : ∀ n row, (run (served P token) noRows rs).desiredState.get? group = some n →
      (run (served P token) noRows rs).configVersion.get? n = some row →
        P.copies row.fields = true) :
    ∃ v, (route P token r).run ⟨run (served P token) noRows rs, []⟩ =
      .ok () ⟨run (served P token) noRows rs, [⟨200, v⟩]⟩ := by
  generalize hs : run (served P token) noRows rs = s at hfew hcopies ⊢
  have hsound : Sound s := hs ▸ sound_run sound_noRows
  rw [route_authorized hauth, parsed_get hget htarget]
  simp only
  have houtcome : outcomeAt s (dispatch P r.method "/v1/desired" q (.dict [])) = .fine := by
    rw [outcome_dispatch, hget]
    have hask : asked q "group" = .fine := by
      rw [asked, hgroup]
      rfl
    have harg : queryArg q "group" = group := by
      rw [queryArg, hgroup]
      rfl
    have hnone : queryArg q "replica" = "" := by
      rw [queryArg, hreplica]
      rfl
    simp only [verdicts, reduceCtorEq, false_and, if_false, true_and, hnone, if_true, harg, hask,
      pointed_fine hsound hfew htext, copiedDesired_fine htext hcopies]
    decide
  obtain ⟨v, t, hrun⟩ := ok_of_outcome_fine houtcome
  have hstays := dispatch_get (P := P) (s := s) "/v1/desired" q (.dict [])
  rw [hget] at hrun
  rw [final_of_ok hrun] at hstays
  subst hstays
  refine ⟨v, ?_⟩
  rw [respond_run, hget, hrun]

def queried : Platform := { plain with
  urlparse := fun target =>
    if target = "/v1/desired?group=prod" then .ok ("/v1/desired", [("group", "prod")])
    else .ok (target, []) }

def prodDesired : HttpRequest :=
  ⟨.get, "/v1/desired?group=prod", some "Bearer secret", none, []⟩

/-- Also after a request that broke off. -/
theorem prod_desired_answered : ∃ v, (route queried "secret" prodDesired).run
    ⟨run (served queried "secret") noRows [openBrace], []⟩ =
      .ok () ⟨run (served queried "secret") noRows [openBrace], [⟨200, v⟩]⟩ :=
  desired_answered queried "secret" [openBrace] prodDesired [("group", "prod")] "prod"
    (by decide +kernel) rfl rfl rfl rfl rfl (by decide +kernel) fun _ _ _ _ => rfl

end Requests

end Trimtab.SqlStore.Handler
