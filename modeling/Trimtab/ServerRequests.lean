import Trimtab.ServerOutcomes

set_option autoImplicit false

/-!
# Every request and its answer

Exactly one response leaves the handler, or the exception does and the connection closes on the
client.
-/
namespace Trimtab.SqlStore.Handler
open PyText Effects Checks

section Requests

variable (P : Platform)

/-- The path, the query and the body of a request, read before the handler's `try`. -/
def parsed (r : HttpRequest) : Except Fault (String × List (String × String) × Json) := do
  let (path, q) ← python (P.urlparse r.target)
  let b ← if r.method = .get then pure (.dict []) else parsedBody P r
  return (path, q, b)

/-- One response, of one of four codes, and no change to the store unless the code is 200. -/
def Answered (token : String) (r : HttpRequest) (s : Tables) : Prop :=
  ∃ t response, (route P token r).run ⟨s, []⟩ = .ok () ⟨t, [response]⟩ ∧
    response.code ∈ [200, 400, 401, 404] ∧ (response.code ≠ 200 → t = s)

def respond (method : Method) (path : String) (q : List (String × String)) (b : Json) :
    ServingM Unit := do
  let response ← rescue
    (do return ⟨200, ← zoom Serving.store (fun t s => { s with store := t })
      (dispatch P method path q b)⟩)
    fun e => match answer? e with
      | some response => return response
      | none => throw e
  sendJson response.code response.body

variable {P}

theorem route_unauthorized {token : String} {r : HttpRequest} (h : authorized token r = false)
    (s : Tables) : (route P token r).run ⟨s, []⟩ =
      .ok () ⟨s, [⟨401, errorDict "bad token"⟩]⟩ := by
  unfold route auth
  rw [h]
  rfl

theorem route_authorized {token : String} {r : HttpRequest} (h : authorized token r = true)
    (s : Tables) : (route P token r).run ⟨s, []⟩ = match parsed P r with
      | .ok (path, q, b) => (respond P r.method path q b).run ⟨s, []⟩
      | .error e => .error e ⟨s, []⟩ := by
  unfold route auth parsed
  rw [h]
  cases python (P.urlparse r.target) with
  | error e => rfl
  | ok pq =>
    by_cases hget : r.method = .get
    · simp only [if_pos hget]
      rfl
    · simp only [if_neg hget]
      cases parsedBody P r <;> rfl

theorem respond_run (method : Method) (path : String) (q : List (String × String)) (b : Json)
    (s : Tables) : (respond P method path q b).run ⟨s, []⟩ =
      match (dispatch P method path q b).run s with
      | .ok v t => .ok () ⟨t, [⟨200, v⟩]⟩
      | .error e t => match answer? e with
        | some response => .ok () ⟨t, [⟨response.code, response.body⟩]⟩
        | none => .error e ⟨t, []⟩ := by
  unfold respond
  rw [EStateM.run_bind]
  cases h : (dispatch P method path q b).run s with
  | ok v t =>
    rw [rescue_of_ok (a := ⟨200, v⟩) (t := ⟨t, []⟩) (by rw [EStateM.run_bind, zoom_run, h]; rfl)]
    rfl
  | error e t =>
    rw [rescue_of_error (e := e) (t := ⟨t, []⟩) (by rw [EStateM.run_bind, zoom_run, h])]
    simp only
    cases answer? e <;> rfl

theorem code_of_answer? {e : Fault} {response : Response} (h : answer? e = some response) :
    response.code = 404 ∨ response.code = 400 := by
  unfold answer? at h
  split at h
  · cases h
    exact .inl rfl
  · cases h
    exact .inr rfl
  · cases h

theorem respond_answered_iff (method : Method) (path : String) (q : List (String × String))
    (b : Json) (s : Tables) :
    (∃ t response, (respond P method path q b).run ⟨s, []⟩ = .ok () ⟨t, [response]⟩ ∧
      response.code ∈ [200, 400, 401, 404] ∧ (response.code ≠ 200 → t = s)) ↔
      outcomeAt s (dispatch P method path q b) ≠ .broken := by
  rw [respond_run, outcomeAt]
  cases (dispatch P method path q b).run s with
  | ok v t =>
    refine iff_of_true ⟨t, _, rfl, List.mem_cons_self, fun h => absurd rfl h⟩ ?_
    exact fun h => Verdict.noConfusion h
  | error e t =>
    rw [outcome_error_ne_broken_iff, answered]
    simp only
    cases ha : answer? e with
    | none =>
      refine iff_of_false ?_ fun h => Bool.noConfusion h.1
      rintro ⟨u, response, hrun, -⟩
      cases hrun
    | some response =>
      have hcode := code_of_answer? ha
      constructor
      · rintro ⟨u, response', hrun, -, hsame⟩
        cases hrun
        refine ⟨rfl, hsame ?_⟩
        rcases hcode with hcode | hcode <;> simp [hcode]
      · rintro ⟨-, rfl⟩
        refine ⟨t, _, rfl, ?_, fun _ => rfl⟩
        rcases hcode with hcode | hcode <;> simp [hcode]

end Requests

/-- A request is answered when its token is wrong, or when it parses and the first argument that is
unfit, if there is one, is refused before anything is written. -/
theorem every_request_answered_iff (P : Platform) (token : String) (r : HttpRequest) (s : Tables) :
    Answered P token r s ↔ authorized token r = false ∨
      ∃ path q b, parsed P r = .ok (path, q, b) ∧
        first (verdicts P s r.method path q b) ≠ .broken := by
  unfold Answered
  cases hauth : authorized token r with
  | false =>
    refine iff_of_true ⟨s, _, route_unauthorized hauth s, by decide, fun _ => rfl⟩ (.inl rfl)
  | true =>
    rw [route_authorized hauth]
    cases hparsed : parsed P r with
    | error e =>
      refine iff_of_false ?_ ?_
      · rintro ⟨t, response, hrun, -⟩
        cases hrun
      · rintro (h | ⟨path, q, b, h, -⟩) <;> cases h
    | ok p =>
      obtain ⟨path, q, b⟩ := p
      rw [respond_answered_iff, outcome_dispatch]
      constructor
      · exact fun h => .inr ⟨path, q, b, rfl, h⟩
      · rintro (h | ⟨path', q', b', h, hne⟩)
        · cases h
        · cases h
          exact hne

/-- A target without a query, and bodies of which only the empty object is JSON. -/
def plain : Platform where
  urlparse target := .ok (target, [])
  loads bytes :=
    if bytes = emptyObject then .ok (.dict [])
    else .error (.valueError
      "Expecting property name enclosed in double quotes: line 1 column 2 (char 1)")
  sorted := .ok
  encodeError _ := none
  realText x := (Json.float x).repr
  integerAffinity v := v
  copies _ := true
  allocate _ := .ok ()

def noRows : Tables := ⟨∅, ∅, ⟨∅, []⟩, ∅, ⟨∅, []⟩⟩

def openBrace : HttpRequest := ⟨.post, "/v1/promote", some "Bearer secret", some "1", [123]⟩

theorem open_brace_not_answered : ¬Answered plain "secret" openBrace noRows := by
  have hparsed : parsed plain openBrace = .error (.python (.valueError
      "Expecting property name enclosed in double quotes: line 1 column 2 (char 1)")) := by
    decide +kernel
  rintro ⟨t, response, hrun, -⟩
  rw [route_authorized (by decide +kernel), hparsed] at hrun
  cases hrun

end Trimtab.SqlStore.Handler
