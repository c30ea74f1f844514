import Trimtab.CanaryOverrides

set_option autoImplicit false

/-!
# Canary calls of several clients

Every call is cut at its store operations, and the operations of different calls come in
any order. A call keeps in its state what it has read.
-/
namespace Trimtab.CanaryInterleaving
open Canary Effects Runs StoreHistory

inductive Request where
  | observe (c : Canary) (metrics : MetricsSource) (sleep : Rat → Except PyErr Unit)
      (canaryId : Int) (samples : Nat)
  | decide (c : Canary) (canaryId : Int) (canaryMetrics baselineMetrics : Metrics)
  | abort (canaryId : Int) (reason : String)

/-- A call between two of its store operations, named for what it does next. -/
inductive Call where
  | checking (c : Canary) (metrics : MetricsSource) (sleep : Rat → Except PyErr Unit)
      (canaryId : Int) (samples : Nat)
  | sampling (c : Canary) (canaryId : Int) (sides : Except PyErr (Metrics × Metrics))
  | deciding (c : Canary) (canaryId : Int) (canaryMetrics baselineMetrics : Metrics)
  | clearing (c : Canary) (canaryId candidate : Int) (passed : Bool) (findings : List String)
  | promoting (c : Canary) (canaryId candidate : Int) (findings : List String)
  | closing (canaryId : Int) (status decision : String)
  | aborting (canaryId : Int) (reason : String)
  | ended

def Request.begin : Request → Call
  | .observe c metrics sleep canaryId samples => .checking c metrics sleep canaryId samples
  | .decide c canaryId canaryMetrics baselineMetrics =>
    .deciding c canaryId canaryMetrics baselineMetrics
  | .abort canaryId reason => .aborting canaryId reason

namespace Call

def read (s : Store) (c : Canary) (canaryId : Int) (cm bm : Metrics) : Store × Call :=
  match (Store.canary canaryId).run s with
  | .error _ t => (t, .ended)
  | .ok row t =>
    match evaluate row.gates cm bm with
    | .error _ => (t, .ended)
    | .ok (passed, findings) =>
      (t, .clearing c canaryId row.candidateVersionId passed findings)

def next (s : Store) : Call → Store × Call
  | .checking c metrics sleep canaryId samples =>
    match (Store.canary canaryId).run s with
    | .error _ t => (t, .ended)
    | .ok row t =>
      if row.status ≠ "observing" then (t, .ended)
      else (t, .sampling c canaryId (c.collect metrics sleep samples row))
  | .sampling c canaryId sides =>
    match sides with
    | .error _ => (s, .ended)
    | .ok sides => read s c canaryId sides.1 sides.2
  | .deciding c canaryId cm bm => read s c canaryId cm bm
  | .clearing c canaryId candidate passed findings =>
    match (Store.clearOverrides canaryId).run s with
    | .error _ t => (t, .ended)
    | .ok _ t => (t, if passed then .promoting c canaryId candidate findings
        else .closing canaryId FAIL (PyText.join "\n" findings))
  | .promoting c canaryId candidate findings =>
    match (Store.promote c.group candidate).run s with
    | .error _ t => (t, .ended)
    | .ok _ t => (t, .closing canaryId PASS (PyText.join "\n" findings))
  | .closing canaryId status decision => (final (Store.closeCanary canaryId status decision) s, .ended)
  | .aborting canaryId reason =>
    match (Store.clearOverrides canaryId).run s with
    | .error _ t => (t, .ended)
    | .ok _ t => (t, .closing canaryId FAIL reason)
  | .ended => (s, .ended)

def on : Call → Option Int
  | .checking _ _ _ canaryId _ | .sampling _ canaryId _ | .deciding _ canaryId _ _
  | .clearing _ canaryId _ _ _ | .promoting _ canaryId _ _ | .closing canaryId _ _
  | .aborting canaryId _ => some canaryId
  | .ended => none

/-- The canary a call is about to close: it has read the row, or begun an abort. -/
def inFlight : Call → Option Int
  | .clearing _ canaryId _ _ _ | .promoting _ canaryId _ _ | .closing canaryId _ _ => some canaryId
  | _ => none

def closes : Call → Option Int
  | .closing canaryId _ _ => some canaryId
  | _ => none

end Call

structure Plane where
  store : Store
  calls : List Call

inductive Event where
  | issue (request : Request)
  | act (client : Nat)
  | other (op : StoreOp)

/-- A canary is closed by no other operation than the calls'. -/
def closesCanary : StoreOp → Bool
  | .closeCanary _ _ _ => true
  | _ => false

def step (s : Plane) : Event → Plane
  | .issue request => { s with calls := s.calls ++ [request.begin] }
  | .act client =>
    match s.calls[client]? with
    | none => s
    | some call => ⟨(call.next s.store).1, s.calls.set client (call.next s.store).2⟩
  | .other op => if closesCanary op then s else { s with store := StoreHistory.apply s.store op }

def initial : Plane := ⟨Store.empty, []⟩

theorem step_act {s : Plane} {client : Nat} {call : Call} (hc : s.calls[client]? = some call) :
    step s (.act client) = ⟨(call.next s.store).1, s.calls.set client (call.next s.store).2⟩ := by
  simp only [step, hc]

theorem step_act_none {s : Plane} {client : Nat} (hc : s.calls[client]? = none) :
    step s (.act client) = s := by
  simp only [step, hc]

theorem step_other_close {s : Plane} {op : StoreOp} (hop : closesCanary op = true) :
    step s (.other op) = s := by
  simp only [step, hop, if_true]

theorem step_other {s : Plane} {op : StoreOp} (hop : closesCanary op = false) :
    step s (.other op) = { s with store := StoreHistory.apply s.store op } := by
  simp only [step, hop, Bool.false_eq_true, if_false]

/-! ## One call alone -/

def Request.exec : Request → StoreM Unit
  | .observe c metrics sleep canaryId samples => do
    let _ ← c.observe metrics sleep canaryId samples
  | .decide c canaryId canaryMetrics baselineMetrics => do
    let _ ← c.decide canaryId canaryMetrics baselineMetrics
  | .abort canaryId reason => Canary.abort canaryId reason

/-- `n` operations of one call with nothing in between. -/
def solo : Nat → Store × Call → Store × Call
  | 0, p => p
  | n + 1, p => solo n (p.2.next p.1)

theorem solo_ended (n : Nat) (s : Store) : solo n (s, .ended) = (s, .ended) := by
  induction n with
  | zero => rfl
  | succ n ih => exact ih

theorem solo_add (m n : Nat) (p : Store × Call) : solo (m + n) p = solo n (solo m p) := by
  induction m generalizing p with
  | zero => rw [Nat.zero_add, solo]
  | succ m ih => rw [Nat.succ_add, solo, ih, solo]

theorem solo_read (s : Store) (c : Canary) (canaryId : Int) (cm bm : Metrics) :
    solo 3 (Call.read s c canaryId cm bm) = (final (c.decide canaryId cm bm) s, .ended) := by
  have hr := c.decide_run s canaryId cm bm
  unfold Call.read
  rw [Store.canary_run]
  cases hrow : s.canaryTable.get? canaryId with
  | none =>
    simp only [hrow] at hr
    rw [final_of_error hr]
    rfl
  | some row =>
    simp only [hrow] at hr
    cases he : evaluate row.gates cm bm with
    | error e =>
      simp only [he] at hr ⊢
      rw [final_of_error hr]
      rfl
    | ok verdict =>
      obtain ⟨passed, findings⟩ := verdict
      cases passed with
      | false =>
        simp only [he] at hr ⊢
        rw [final_of_ok hr, solo, Call.next, clearOverrides_run hrow]
        exact congrArg (·, Call.ended) (Store.closeCanary_final _ _ _ _)
      | true =>
        simp only [he] at hr ⊢
        rw [solo, Call.next, clearOverrides_run hrow]
        change solo 2 (cleared s canaryId, .promoting c canaryId row.candidateVersionId findings) = _
        rw [solo, Call.next]
        cases hp : (Store.promote c.group row.candidateVersionId).run (cleared s canaryId) with
        | error e t =>
          rw [hp] at hr
          rw [final_of_error hr]
          rfl
        | ok u t =>
          rw [hp] at hr
          rw [final_of_ok hr]
          exact congrArg (·, Call.ended) (Store.closeCanary_final _ _ _ _)

/-- The operations of a call, taken one after the other, are the call. -/
theorem solo_request (s : Store) (request : Request) :
    solo 5 (s, request.begin) = (final request.exec s, .ended) := by
  cases request with
  | observe c metrics sleep canaryId samples =>
    have hr := c.observe_run s metrics sleep canaryId samples
    rw [Request.exec, final_discard, Request.begin, solo, Call.next, Store.canary_run]
    cases hrow : s.canaryTable.get? canaryId with
    | none =>
      simp only [hrow] at hr
      rw [final_of_error hr]
      rfl
    | some row =>
      simp only [hrow] at hr
      split_ifs at hr with ho
      · rw [final_of_error hr]
        simp only [ho, ne_eq, not_false_eq_true, if_true]
        exact solo_ended 4 s
      · simp only [ho, if_false]
        change solo 3 (match c.collect metrics sleep samples row with
          | .error _ => (s, .ended)
          | .ok sides => Call.read s c canaryId sides.1 sides.2) = _
        cases hw : c.collect metrics sleep samples row with
        | error e =>
          simp only [hw] at hr
          rw [final_of_error hr]
          rfl
        | ok sides =>
          simp only [hw] at hr
          rw [final, hr]
          exact solo_read s c canaryId sides.1 sides.2
  | decide c canaryId cm bm =>
    have h := solo_add 3 1 (Call.read s c canaryId cm bm)
    rw [solo_read] at h
    rw [Request.exec, final_discard]
    exact h.trans (solo_ended 1 _)
  | abort canaryId reason =>
    rw [Request.exec, Canary.abort, final_bind, Request.begin, solo, Call.next]
    cases (Store.clearOverrides canaryId).run s <;> rfl

/-! ## What a step changes -/

/-- What one operation of a call does, by where the call stands with its canary. -/
inductive Moves (s : Store) (call : Call) (t : Store) (call' : Call) : Prop where
  | reads (state : t = s) (before : call.inFlight = none) (after : call'.inFlight = none)
  | enters (canaryId : Int) (before : call.inFlight = none) (after : call'.inFlight = some canaryId)
      (canaries : t.canaryTable = s.canaryTable) (desired : t.desiredState = s.desiredState)
  | works (canaryId : Int) (before : call.inFlight = some canaryId) (on : call.on = some canaryId)
      (after : ∀ id, call'.inFlight = some id → id = canaryId)
      (canaries : t.canaryTable = s.canaryTable)
  | closes (canaryId : Int) (status decision : String)
      (before : call = .closing canaryId status decision)
      (state : t = closed s canaryId status decision) (after : call'.inFlight = none)

theorem read_moves (s : Store) {call : Call} (hb : call.inFlight = none) (c : Canary)
    (canaryId : Int) (cm bm : Metrics) :
    Moves s call (Call.read s c canaryId cm bm).1 (Call.read s c canaryId cm bm).2 := by
  unfold Call.read
  rw [Store.canary_run]
  cases s.canaryTable.get? canaryId with
  | none => exact .reads rfl hb rfl
  | some row =>
    cases he : evaluate row.gates cm bm with
    | error e =>
      simp only [he]
      exact .reads rfl hb rfl
    | ok verdict =>
      simp only [he]
      exact .enters canaryId hb rfl rfl rfl

theorem next_moves (s : Store) (call : Call) :
    Moves s call (call.next s).1 (call.next s).2 := by
  cases call with
  | checking c metrics sleep canaryId samples =>
    simp only [Call.next, Store.canary_run]
    cases s.canaryTable.get? canaryId with
    | none => exact .reads rfl rfl rfl
    | some row =>
      dsimp only
      split_ifs <;> exact .reads rfl rfl rfl
  | sampling c canaryId sides =>
    cases sides with
    | error e => exact .reads rfl rfl rfl
    | ok sides => exact read_moves s rfl c canaryId sides.1 sides.2
  | deciding c canaryId cm bm => exact read_moves s rfl c canaryId cm bm
  | clearing c canaryId candidate passed findings =>
    rw [Call.next, Store.clearOverrides_run]
    cases Store.binds s.canaryTable canaryId with
    | false => exact .works canaryId rfl rfl (fun id h => by cases h) rfl
    | true =>
      refine .works canaryId rfl rfl (fun id h => ?_) rfl
      cases passed <;> cases h <;> rfl
  | promoting c canaryId candidate findings =>
    have hk := CanaryOverrides.promote_keeps s c.group candidate
    simp only [Call.next]
    unfold final at hk
    cases hp : (Store.promote c.group candidate).run s with
    | error e t =>
      rw [hp] at hk
      exact .works canaryId rfl rfl (fun id h => by cases h) hk.2
    | ok u t =>
      rw [hp] at hk
      refine .works canaryId rfl rfl (fun id h => ?_) hk.2
      cases h
      rfl
  | closing canaryId status decision =>
    exact .closes canaryId status decision rfl (Store.closeCanary_final _ _ _ _) rfl
  | aborting canaryId reason =>
    rw [Call.next, Store.clearOverrides_run]
    cases Store.binds s.canaryTable canaryId with
    | false => exact .reads rfl rfl rfl
    | true => exact .enters canaryId rfl rfl rfl rfl
  | ended => exact .reads rfl rfl rfl

/-! ## The condition, and what it keeps -/

/-- A call on canary `id` goes ahead only while it is observing, and closes it only when no
other call on it that has gone ahead is still to close it. -/
def Orderly (id : Int) (s : Plane) : Event → Prop
  | .act client => ∀ call ∈ s.calls[client]?,
      (call.inFlight = none → (call.next s.store).2.inFlight = some id →
        ∀ row ∈ s.store.canaryTable.get? id, row.status = "observing") ∧
      (call.closes = some id → ∀ j < s.calls.length, j ≠ client →
        s.calls[j]?.bind Call.inFlight ≠ some id)
  | _ => True

instance (id : Int) (s : Plane) : (e : Event) → Decidable (Orderly id s e)
  | .act client => inferInstanceAs (Decidable (∀ call ∈ s.calls[client]?, _ ∧ _))
  | .issue _ => isTrue trivial
  | .other _ => isTrue trivial

def Verdict (row : CanaryRow) : Prop := row.status = PASS ∨ row.status = FAIL

theorem not_observing {row : CanaryRow} (h : Verdict row) : row.status ≠ "observing" := by
  rcases h with h | h <;> rw [h] <;> decide

/-- No call is about to close canary `id` once it is closed. -/
def Settled (id : Int) (s : Plane) : Prop :=
  ∀ row, s.store.canaryTable.get? id = some row → Verdict row →
    ∀ (i : Nat) (call : Call), s.calls[i]? = some call → call.inFlight ≠ some id

theorem other_canaries (s : Store) {op : StoreOp} (hop : closesCanary op = false) :
    (StoreHistory.apply s op).canaryTable = s.canaryTable ∨
      ∃ row, row.status = "observing" ∧
        (StoreHistory.apply s op).canaryTable = s.canaryTable.insert row := by
  cases op with
  | propose group fields createdBy reason =>
    have hk := CanaryOverrides.propose_keeps s group fields createdBy reason
    rw [StoreHistory.apply, StoreOp.exec, final_discard]
    exact .inl hk.2
  | promote group versionId => exact .inl (CanaryOverrides.promote_keeps s group versionId).2
  | rollback group toVersionId => exact .inl (CanaryOverrides.promote_keeps s group toVersionId).2
  | openCanary group candidateId scope gates windowS =>
    rw [StoreHistory.apply, StoreOp.exec, final_discard]
    rcases Store.openCanary_final s group candidateId scope gates windowS with h | ⟨base, -, h⟩ <;>
      rw [h]
    · exact .inl rfl
    · exact .inr ⟨_, rfl, rfl⟩
  | closeCanary canaryId status decision => cases hop
  | setOverrides replicaIds versionId canaryId =>
    rw [StoreHistory.apply, StoreOp.exec]
    rcases Store.setOverrides_final s replicaIds versionId canaryId with h | h <;> rw [h] <;>
      exact .inl rfl
  | clearOverrides canaryId =>
    rw [StoreHistory.apply, StoreOp.exec]
    rcases Store.clearOverrides_final s canaryId with h | h <;> rw [h] <;> exact .inl rfl
  | recordStatus replicaId group appliedVersionId state detail => exact .inl rfl

theorem row_kept_by_other {s : Store} {op : StoreOp} (hop : closesCanary op = false) {id : Int}
    {row : CanaryRow} (hrow : s.canaryTable.get? id = some row) :
    (StoreHistory.apply s op).canaryTable.get? id = some row := by
  rcases other_canaries s hop with h | ⟨new, -, h⟩
  · rw [h, hrow]
  · rw [h, SerialTable.get?_insert_of_some hrow]

theorem verdict_before_other {s : Store} {op : StoreOp} (hop : closesCanary op = false) {id : Int}
    {row : CanaryRow} (hrow : (StoreHistory.apply s op).canaryTable.get? id = some row)
    (hv : Verdict row) : s.canaryTable.get? id = some row := by
  rcases other_canaries s hop with h | ⟨new, hnew, h⟩
  · rwa [h] at hrow
  · rw [h, SerialTable.get?_insert] at hrow
    split_ifs at hrow
    · cases hrow
      exact absurd hnew (not_observing hv)
    · exact hrow

theorem getElem?_append_begin {calls : List Call} {request : Request} {i : Nat} {call : Call}
    (h : (calls ++ [request.begin])[i]? = some call) :
    calls[i]? = some call ∨ call.inFlight = none := by
  rw [List.getElem?_append] at h
  split_ifs at h with hi
  · exact .inl h
  · rw [List.getElem?_singleton] at h
    split_ifs at h
    cases h
    exact .inr (by cases request <;> rfl)

theorem settled_step {s : Plane} {id : Int} (hs : Settled id s) {e : Event}
    (ho : Orderly id s e) : Settled id (step s e) := by
  intro row hrow hv i call hcall
  cases e with
  | issue request =>
    rcases getElem?_append_begin hcall with hold | hnone
    · exact hs row hrow hv i call hold
    · rw [hnone]
      simp
  | other op =>
    cases hop : closesCanary op with
    | true =>
      rw [step_other_close hop] at hrow hcall
      exact hs row hrow hv i call hcall
    | false =>
      rw [step_other hop] at hrow hcall
      exact hs row (verdict_before_other hop hrow hv) hv i call hcall
  | act client =>
    cases hc : s.calls[client]? with
    | none =>
      rw [step_act_none hc] at hrow hcall
      exact hs row hrow hv i call hcall
    | some acting =>
      rw [step_act hc] at hrow hcall
      rw [List.getElem?_set] at hcall
      have hidle : ∀ (j : Nat) (other : Call), s.calls[j]? = some other →
          s.store.canaryTable.get? id = some row →
          other.inFlight ≠ some id := fun j other hj hr => hs row hr hv j other hj
      cases next_moves s.store acting with
      | reads state before after =>
        rw [state] at hrow
        split_ifs at hcall
        · cases hcall
          rw [after]
          simp
        · exact hidle i call hcall hrow
      | enters canaryId before after canaries desired =>
        rw [canaries] at hrow
        split_ifs at hcall
        · cases hcall
          intro hid
          exact not_observing hv ((ho acting hc).1 before hid row hrow)
        · exact hidle i call hcall hrow
      | works canaryId before on after canaries =>
        rw [canaries] at hrow
        split_ifs at hcall
        · cases hcall
          intro hid
          rw [← after id hid] at before
          exact hidle client acting hc hrow before
        · exact hidle i call hcall hrow
      | closes canaryId status decision before state after =>
        rw [state, closed, SerialTable.get?_modify] at hrow
        split_ifs at hcall with hi
        · cases hcall
          rw [after]
          simp
        · split_ifs at hrow with hid
          · subst hid
            have hlt := (List.getElem?_eq_some_iff.mp hcall).1
            have hfree := (ho acting hc).2 (by rw [before]; rfl) i hlt (Ne.symm hi)
            rwa [hcall] at hfree
          · exact hidle i call hcall hrow

/-! ## A verdict is final -/

/-- Row `id`, once it has a verdict, keeps status and decision. -/
def VerdictKept (id : Int) (s t : Plane) : Prop :=
  ∀ row, s.store.canaryTable.get? id = some row → Verdict row →
    ∃ row', t.store.canaryTable.get? id = some row' ∧ row'.status = row.status ∧
      row'.decision = row.decision

/-- A step of a call on a canary that has its verdict moves no desired version. -/
def Silent (id : Int) (s : Plane) (e : Event) : Prop :=
  ∀ row, s.store.canaryTable.get? id = some row → Verdict row →
    ∀ client call, e = .act client → s.calls[client]? = some call → call.on = some id →
      (step s e).store.desiredState = s.store.desiredState

theorem row_kept_step {s : Plane} {id : Int} (hs : Settled id s) (e : Event) {row : CanaryRow}
    (hrow : s.store.canaryTable.get? id = some row) (hv : Verdict row) :
    (step s e).store.canaryTable.get? id = some row := by
  cases e with
  | issue request => exact hrow
  | other op =>
    cases hop : closesCanary op with
    | true => rwa [step_other_close hop]
    | false =>
      rw [step_other hop]
      exact row_kept_by_other hop hrow
  | act client =>
    cases hc : s.calls[client]? with
    | none => rwa [step_act_none hc]
    | some acting =>
      rw [step_act hc]
      cases next_moves s.store acting with
      | reads state before after => rw [state, hrow]
      | enters canaryId before after canaries desired => rw [canaries, hrow]
      | works canaryId before on after canaries => rw [canaries, hrow]
      | closes canaryId status decision before state after =>
        rw [state, closed, SerialTable.get?_modify_of_ne _ _ ?_]
        · exact hrow
        · rintro rfl
          exact hs row hrow hv client acting hc (by rw [before]; rfl)

theorem silent_step {s : Plane} {id : Int} (hs : Settled id s) (e : Event) : Silent id s e := by
  intro row hrow hv client call he hc hon
  subst he
  rw [step_act hc]
  cases next_moves s.store call with
  | reads state before after => rw [state]
  | enters canaryId before after canaries desired => exact desired
  | works canaryId before on after canaries =>
    rw [on] at hon
    exact absurd (before.trans hon) (hs row hrow hv client call hc)
  | closes canaryId status decision before state after => rw [state]; rfl

theorem settled_initial (id : Int) : Settled id initial := fun _ h => by cases h

theorem settled_run {s : Plane} {id : Int} (hs : Settled id s) {es : List Event}
    (ho : Along step (Orderly id) s es) : Settled id (run step s es) :=
  run_invariant_along (I := Settled id) (fun _ _ hs ho => settled_step hs ho) ho hs

theorem row_kept_run {s : Plane} {id : Int} (hs : Settled id s) {es : List Event}
    (ho : Along step (Orderly id) s es) {row : CanaryRow}
    (hrow : s.store.canaryTable.get? id = some row) (hv : Verdict row) :
    (run step s es).store.canaryTable.get? id = some row := by
  induction es generalizing s with
  | nil => exact hrow
  | cons e es ih => exact ih (settled_step hs ho.1) ho.2 (row_kept_step hs e hrow hv)

theorem silent_run {s : Plane} {id : Int} (hs : Settled id s) {es : List Event}
    (ho : Along step (Orderly id) s es) : Along step (Silent id) s es := by
  induction es generalizing s with
  | nil => trivial
  | cons e es ih => exact ⟨silent_step hs e, ih (settled_step hs ho.1) ho.2⟩

/-- When every call on a canary goes ahead while it is open, and alone, its verdict is final. -/
theorem verdict_final_orderly (id : Int) (before after : List Event)
    (ho : Along step (Orderly id) initial (before ++ after)) :
    VerdictKept id (run step initial before) (run step initial (before ++ after)) ∧
      Along step (Silent id) initial (before ++ after) := by
  refine ⟨fun row hrow hv => ?_, silent_run (settled_initial id) ho⟩
  have hsplit := along_append.mp ho
  have hs := settled_run (settled_initial id) hsplit.1
  refine ⟨row, ?_, rfl, rfl⟩
  rw [run_append]
  exact row_kept_run hs hsplit.2 hrow hv

def pair : Canary := ⟨"g", ["r0", "r1"]⟩

def opening : List Event :=
  [.other (.propose "g" (Dict.ofList [("max_num_seqs", .int 16)]) "t" ""), .other (.promote "g" 1),
    .other (.propose "g" (Dict.ofList [("max_num_seqs", .int 8)]) "t" ""),
    .other (.openCanary "g" 2 ["r0"] [] 60), .other (.setOverrides ["r0"] 2 1)]

/-- An abort, and another client's observe, which finds the canary closed. -/
theorem verdict_final_abort :
    VerdictKept 1 (run step initial (opening ++ [.issue (.abort 1 ""), .act 0, .act 0]))
        (run step initial ((opening ++ [.issue (.abort 1 ""), .act 0, .act 0]) ++
          [.issue (.observe pair (fun _ _ => .ok ∅) timeSleep 1 1), .act 1, .act 1])) ∧
      Along step (Silent 1) initial ((opening ++ [.issue (.abort 1 ""), .act 0, .act 0]) ++
        [.issue (.observe pair (fun _ _ => .ok ∅) timeSleep 1 1), .act 1, .act 1]) :=
  verdict_final_orderly 1 _ _ (by decide +kernel)

def abortedWhileSampling : List Event :=
  opening ++ [.issue (.observe pair (fun _ _ => .ok ∅) timeSleep 1 1), .act 0,
    .issue (.abort 1 "aborted by operator"), .act 1, .act 1]

theorem aborted_then_promoted :
    ¬∀ (id : Int) (before after : List Event),
      VerdictKept id (run step initial before) (run step initial (before ++ after)) ∧
        Along step (Silent id) initial (before ++ after) := by
  intro h
  have hkept := (h 1 abortedWhileSampling [.act 0, .act 0, .act 0, .act 0]).1
  have hrow : (run step initial abortedWhileSampling).store.canaryTable.get? 1 =
      some ⟨"g", 2, some 1, ["r0"], [], 60, FAIL, "aborted by operator"⟩ := by decide +kernel
  have hlater : ((run step initial (abortedWhileSampling ++ [.act 0, .act 0, .act 0, .act 0])
      ).store.canaryTable.get? 1).map (·.status) = some PASS := by decide +kernel
  obtain ⟨row, hrow', hstatus, -⟩ := hkept _ hrow (.inr rfl)
  rw [hrow'] at hlater
  have : FAIL = PASS := hstatus.symm.trans (Option.some.inj hlater)
  exact absurd this (by decide)

end Trimtab.CanaryInterleaving
