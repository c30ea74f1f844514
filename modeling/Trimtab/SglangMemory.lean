import Trimtab.SglangGenerations

set_option autoImplicit false

/-!
# The reinit with its memory

The memory saver takes part in a reinit without a say in it: what the engine becomes and what it
answers are those of the engine alone, and the saver's numbers are the engine's generation.
-/
namespace Trimtab.SglangMemory
open Effects Runs SglangReinit SglangGenerations

/-! ## What the engine becomes -/

section Engine

/-- The engine does in a program what it does in another without the saver. -/
abbrev Follows {α : Type} (x : GpuM α) (y : EStateM PyErr Engine α) : Prop :=
  Simulates (fun _ => True) Gpu.engine x y

theorem follows_onEngine {α : Type} (x : EStateM PyErr Engine α) :
    Follows (SglangGenerations.onEngine x) x :=
  simulates_zoom (fun _ _ _ => trivial) (fun _ _ => rfl) x

theorem follows_onSaver {α : Type} (f : Saver → Saver) {k : Unit → GpuM α}
    {y : EStateM PyErr Engine α} (hk : Follows (k ()) y) : Follows (onSaver f >>= k) y :=
  simulates_skip (fun _ _ => trivial) (fun _ => rfl) hk

theorem follows_attempt (tags : List String) (attempt : Attempt) (values : Fields) :
    Follows (attemptWith tags attempt values) (rebuild attempt values) :=
  follows_onSaver _ (follows_onEngine _)

theorem follows_resize (w : Work) (first again : Attempt) (fields : Fields) :
    Follows (SglangGenerations.resize w first again fields)
      (SglangReinit.resize first again fields) := by
  refine follows_onSaver _ (simulates_get_bind fun s => ?_)
  refine simulates_bind (follows_onEngine _) fun _ => follows_onSaver _ (follows_onSaver _ ?_)
  refine simulates_bind (simulates_rescue ?_ fun err => ?_) fun fields => ?_
  · exact simulates_bind (follows_attempt _ _ _) fun _ => simulates_pure _
  · exact simulates_bind (follows_attempt _ _ _) fun _ => simulates_pure _
  · exact follows_onSaver _ (follows_onEngine _)

theorem follows_reinit (w : Work) (first again : Attempt) (fields : Fields) :
    Follows (SglangGenerations.trimtabReinit w first again fields)
      (SglangReinit.trimtabReinit first again fields) := by
  refine simulates_get_bind fun s => simulates_ite (simulates_pure _) ?_
  refine simulates_ite (follows_onEngine _) (simulates_ite (follows_onEngine _) ?_)
  exact follows_resize w first again fields

def lone (e : Engine) : Event → Engine
  | .allocate _ => e
  | .reinit _ first again fields => final (SglangReinit.trimtabReinit first again fields) e
  | .other e' => { e' with generation := e.generation }

def answer (s : Gpu) : Event → Option Reply
  | .reinit w first again fields =>
    value? (SglangGenerations.trimtabReinit w first again fields) s
  | _ => none

def loneAnswer (e : Engine) : Event → Option Reply
  | .reinit _ first again fields => value? (SglangReinit.trimtabReinit first again fields) e
  | _ => none

theorem step_engine (s : Gpu) (e : Event) :
    (step s e).engine = lone s.engine e ∧ answer s e = loneAnswer s.engine e := by
  cases e with
  | allocate tag => exact ⟨rfl, rfl⟩
  | other e => exact ⟨rfl, rfl⟩
  | reinit w first again fields =>
    have hrun := (follows_reinit w first again fields s trivial).2
    simp only [step, lone, answer, loneAnswer, final, value?, hrun]
    cases (SglangGenerations.trimtabReinit w first again fields).run s <;> exact ⟨rfl, rfl⟩

theorem run_engine (s : Gpu) (es : List Event) :
    (run step s es).engine = run lone s.engine es ∧
      replies step answer s es = replies lone loneAnswer s.engine es := by
  induction es generalizing s with
  | nil => exact ⟨rfl, rfl⟩
  | cons e es ih =>
    obtain ⟨hengine, hanswer⟩ := step_engine s e
    obtain ⟨hend, hreplies⟩ := ih (step s e)
    rw [run_cons, run_cons, replies, replies, hend, hreplies, hengine, hanswer]
    exact ⟨rfl, rfl⟩

end Engine

/-! ## What the saver counts -/

theorem count_allocate (tags : List String) : (tags.map Step.allocate).count .retire = 0 := by
  rw [List.count_eq_zero, List.mem_map]
  rintro ⟨tag, -, h⟩
  cases h

theorem gen_run (s : Saver) (steps : List Step) :
    (run Saver.step s steps).gen.getD 0 = s.gen.getD 0 + steps.count .retire := by
  induction steps generalizing s with
  | nil => rfl
  | cons st steps ih =>
    rw [run_cons, ih]
    cases st with
    | allocate tag =>
      rw [List.count_cons_of_ne (by simp)]
      rfl
    | retire =>
      rw [List.count_cons_self]
      change s.gen.getD 0 + 1 + _ = _
      omega

abbrev Aged (e t : Engine) : Prop := t.generation = e.generation

theorem aged_trans ⦃e t u : Engine⦄ (h : Aged e t) (h' : Aged t u) : Aged e u := h'.trans h

theorem rebuild_aged (attempt : Attempt) (values : Fields) :
    Respects Aged (rebuild attempt values) := by
  refine respects_bind aged_trans ?_ fun _ => ?_
  · refine respects_bind aged_trans (fun _ => rfl) fun _ => ?_
    exact respects_bind aged_trans (respects_ofExcept (R := Aged) (fun _ => rfl) _)
      fun _ _ => rfl
  · intro e
    unfold final
    cases h : attempt e.context e.fractions with
    | ok info =>
      rw [build_ok h]
      rfl
    | error p =>
      obtain ⟨stage, err⟩ := p
      rw [build_error h]
      rfl

theorem attempts_aged (first again : Attempt) (old fields : Fields) :
    Respects Aged (do
      let fields ← rescue (do rebuild first fields; return fields) (restore again old fields)
      finish fields) := by
  refine respects_bind aged_trans (fun e => ?_) fun _ _ => rfl
  have hfirst : Respects Aged (do rebuild first fields; return fields) :=
    respects_bind aged_trans (rebuild_aged first fields) fun _ _ => rfl
  have he := hfirst e
  rw [final] at he ⊢
  cases h : (do rebuild first fields; return fields : EStateM PyErr Engine Fields).run e with
  | ok a t =>
    rw [h] at he
    rw [rescue_of_ok h]
    exact he
  | error err t =>
    rw [h] at he
    rw [rescue_of_error h]
    have hagain : Respects Aged (restore again old fields err) :=
      respects_bind aged_trans (rebuild_aged again _) fun _ _ => rfl
    exact (hagain t).trans he

theorem generation_resize (w : Work) (first again : Attempt) (fields : Fields) (e : Engine) :
    (final (SglangReinit.resize first again fields) e).generation =
      e.generation + (resizeSteps e w first again fields).count .retire := by
  unfold resizeSteps
  rw [List.count_append, count_allocate, Nat.zero_add]
  cases hx : fraction fields with
  | error err =>
    rw [final_of_error (resize_raises first again hx)]
    rfl
  | ok x =>
    have hend := attempts_aged first again (previous e) fields (released x e)
    rw [final_of_run_eq (resize_run first again hx)]
    dsimp only
    rw [hend, List.cons_append, List.count_cons_self, List.count_append, count_allocate,
      Nat.zero_add]
    cases (rebuild first fields).run (released x e) with
    | ok a t =>
      dsimp only
      rw [count_allocate]
      rfl
    | error err t =>
      dsimp only
      rw [List.count_append, count_allocate, Nat.zero_add]
      cases (rebuild again (back (previous e) fields)).run t with
      | ok a u =>
        dsimp only
        rw [count_allocate]
        rfl
      | error err u => rfl

theorem generation_reinit (w : Work) (first again : Attempt) (fields : Fields) (e : Engine) :
    (final (SglangReinit.trimtabReinit first again fields) e).generation =
      e.generation + (reinitSteps e w first again fields).count .retire := by
  have hget : final (SglangReinit.trimtabReinit first again fields) e = final
      (if notAllowed fields ≠ [] then
        return refusal ("not warm-reinitable: " ++ PyText.reprList (notAllowed fields))
      else if !e.memorySaver then
        refuse "warm reinit needs the server launched with --enable-memory-saver"
      else if !e.idle then refuse "scheduler busy, drain before a warm reinit"
      else SglangReinit.resize first again fields) e := rfl
  rw [hget]
  unfold reinitSteps
  by_cases hbad : notAllowed fields ≠ []
  · rw [if_pos hbad, if_pos (.inl hbad)]
    rfl
  rw [if_neg hbad]
  cases hsaver : e.memorySaver with
  | false =>
    rw [if_pos (by decide), if_pos (.inr (.inl rfl))]
    rfl
  | true =>
    rw [if_neg (by decide)]
    cases hidle : e.idle with
    | false =>
      rw [if_pos (by decide), if_pos (.inr (.inr rfl))]
      rfl
    | true =>
      rw [if_neg (by decide), if_neg (by simp [hbad])]
      exact generation_resize w first again fields e

theorem generation_run (s : Gpu) (es : List Event) :
    (run step s es).engine.generation =
      s.engine.generation + (stepsAlong s es).count .retire := by
  induction es generalizing s with
  | nil => rfl
  | cons e es ih =>
    have hstep : (step s e).engine.generation =
        s.engine.generation + (stepsOf s e).count .retire := by
      rw [(step_engine s e).1]
      cases e with
      | allocate tag => rfl
      | reinit w first again fields => exact generation_reinit w first again fields s.engine
      | other e => rfl
    rw [run_cons, ih, hstep, stepsAlong, List.count_append, Nat.add_assoc]

/-- The number on the class is the scheduler's, and so many generations have been paused. -/
structure Numbered (s : Saver) : Prop where
  same : s.classGen.getD 0 = s.gen.getD 0
  paused : pauses s.log = (List.range (s.gen.getD 0)).flatMap pauseTags

theorem numbered_step {s : Saver} (h : Numbered s) (st : Step) : Numbered (s.step st) := by
  cases st with
  | allocate tag =>
    refine ⟨h.same, ?_⟩
    change pauses (s.log ++ [_]) = _
    rw [pauses_append, h.paused]
    exact List.append_nil _
  | retire =>
    refine ⟨rfl, ?_⟩
    change pauses (s.log ++ _) = (List.range (s.gen.getD 0 + 1)).flatMap pauseTags
    rw [pauses_append, pauses_map_pause, h.paused, List.range_succ, List.flatMap_append,
      List.flatMap_singleton]

/-- Over every run the engine becomes and answers what it would without a saver, and the saver has
paused exactly the generations that the engine has left behind, whatever was allocated. -/
theorem memory_follows_engine (e : Engine) (es : List Event) :
    (run step ⟨e, {}⟩ es).engine = run lone e es ∧
      replies step answer ⟨e, {}⟩ es = replies lone loneAnswer e es ∧
      (run lone e es).generation = e.generation + (run step ⟨e, {}⟩ es).saver.gen.getD 0 ∧
      Numbered (run step ⟨e, {}⟩ es).saver := by
  obtain ⟨hengine, hreplies⟩ := run_engine ⟨e, {}⟩ es
  refine ⟨hengine, hreplies, ?_, ?_⟩
  · rw [← hengine, generation_run, run_saver, gen_run]
    exact congrArg (e.generation + ·) (Nat.zero_add _).symm
  · rw [run_saver]
    exact run_invariant (I := Numbered) (fun _ st h => numbered_step h st) _ ⟨rfl, rfl⟩

end Trimtab.SglangMemory
