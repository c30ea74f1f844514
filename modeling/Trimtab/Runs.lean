import Mathlib.Data.List.Basic

set_option autoImplicit false

/-!
# Runs of a labelled machine

`step s e` is the state after event `e`; an event that is not possible in `s` leaves `s`
as it is. A run is a list of events, so that two runs compose by appending them.
-/

namespace Runs

variable {σ ε : Type} (step : σ → ε → σ)

def run (s : σ) (es : List ε) : σ := es.foldl step s

/-- `P` holds of every event of the run, in the state the event finds. -/
def Along (P : σ → ε → Prop) : σ → List ε → Prop
  | _, [] => True
  | s, e :: es => P s e ∧ Along P (step s e) es

instance decidableAlong (P : σ → ε → Prop) [∀ s e, Decidable (P s e)] :
    (s : σ) → (es : List ε) → Decidable (Along step P s es)
  | _, [] => isTrue trivial
  | s, e :: es => @instDecidableAnd _ _ _ (decidableAlong P (step s e) es)

variable {step}

@[simp] theorem run_nil (s : σ) : run step s [] = s := rfl

@[simp] theorem run_cons (s : σ) (e : ε) (es : List ε) :
    run step s (e :: es) = run step (step s e) es := rfl

theorem run_append (s : σ) (xs ys : List ε) :
    run step s (xs ++ ys) = run step (run step s xs) ys := List.foldl_append

theorem run_concat (s : σ) (es : List ε) (e : ε) :
    run step s (es ++ [e]) = step (run step s es) e := by rw [run_append]; rfl

theorem along_mono {P Q : σ → ε → Prop} (h : ∀ s e, P s e → Q s e) {s : σ} {es : List ε}
    (hp : Along step P s es) : Along step Q s es := by
  induction es generalizing s with
  | nil => trivial
  | cons e es ih => exact ⟨h s e hp.1, ih hp.2⟩

theorem along_congr {P Q : σ → ε → Prop} (h : ∀ s e, P s e ↔ Q s e) {s : σ} {es : List ε} :
    Along step P s es ↔ Along step Q s es :=
  ⟨along_mono fun s e => (h s e).mp, along_mono fun s e => (h s e).mpr⟩

theorem along_and {P Q : σ → ε → Prop} {s : σ} {es : List ε} (hp : Along step P s es)
    (hq : Along step Q s es) : Along step (fun s e => P s e ∧ Q s e) s es := by
  induction es generalizing s with
  | nil => trivial
  | cons e es ih => exact ⟨⟨hp.1, hq.1⟩, ih hp.2 hq.2⟩

theorem along_of_mem {Q : ε → Prop} {s : σ} {es : List ε} (hq : ∀ e ∈ es, Q e) :
    Along step (fun _ e => Q e) s es := by
  induction es generalizing s with
  | nil => trivial
  | cons e es ih =>
    exact ⟨hq e List.mem_cons_self, ih fun f hf => hq f (List.mem_cons_of_mem e hf)⟩

theorem along_append {P : σ → ε → Prop} {s : σ} {xs ys : List ε} :
    Along step P s (xs ++ ys) ↔ Along step P s xs ∧ Along step P (run step s xs) ys := by
  induction xs generalizing s with
  | nil => simp [Along]
  | cons x xs ih => simp only [List.cons_append, Along, run_cons, ih, and_assoc]

theorem along_iff {P : σ → ε → Prop} {s : σ} {es : List ε} : Along step P s es ↔
    ∀ before e after, es = before ++ e :: after → P (run step s before) e := by
  constructor
  · rintro h before e after rfl
    exact (along_append.mp h).2.1
  · intro h
    induction es generalizing s with
    | nil => trivial
    | cons e es ih =>
      refine ⟨h [] e es rfl, ih fun before f after he => ?_⟩
      exact h (e :: before) f after (by rw [he]; rfl)

theorem along_of_forall {P : σ → ε → Prop} (h : ∀ s e, P s e) (s : σ) (es : List ε) :
    Along step P s es := by
  induction es generalizing s with
  | nil => trivial
  | cons e es ih => exact ⟨h s e, ih _⟩

/-- What every step that meets `P` preserves holds at the end of every run along `P`. -/
theorem run_invariant_along {P : σ → ε → Prop} {I : σ → Prop}
    (preserved : ∀ s e, I s → P s e → I (step s e))
    {s : σ} {es : List ε} (hp : Along step P s es) (hs : I s) : I (run step s es) := by
  induction es generalizing s with
  | nil => exact hs
  | cons e es ih => exact ih hp.2 (preserved s e hs hp.1)

/-- The same for what holds of the steps themselves. -/
theorem along_of_invariant {P Q : σ → ε → Prop} {I : σ → Prop}
    (preserved : ∀ s e, I s → P s e → I (step s e)) (holds : ∀ s e, I s → P s e → Q s e)
    {s : σ} {es : List ε} (hp : Along step P s es) (hs : I s) : Along step Q s es := by
  induction es generalizing s with
  | nil => trivial
  | cons e es ih => exact ⟨holds s e hs hp.1, ih hp.2 (preserved s e hs hp.1)⟩

theorem run_invariant {I : σ → Prop} (preserved : ∀ s e, I s → I (step s e))
    {s : σ} (es : List ε) (hs : I s) : I (run step s es) :=
  run_invariant_along (P := fun _ _ => True) (fun s e h _ => preserved s e h)
    (along_of_forall (fun _ _ => trivial) s es) hs

/-- When `C` is what a step of a run along `L` must meet for `P` to hold after it, `P` holds all
along the run exactly when every step of it meets `C`. -/
theorem always_iff_along_along {I P : σ → Prop} {C L : σ → ε → Prop} (sound : ∀ s, I s → P s)
    (preserved : ∀ s e, I s → L s e → C s e → I (step s e))
    (complete : ∀ s e, I s → L s e → P (step s e) → C s e) {s : σ} {es : List ε}
    (hl : Along step L s es) (hs : I s) :
    (∀ before after, es = before ++ after → P (run step s before)) ↔ Along step C s es := by
  constructor
  · intro h
    induction es generalizing s with
    | nil => trivial
    | cons e es ih =>
      have he : C s e := complete s e hs hl.1 (h [e] es rfl)
      refine ⟨he, ih hl.2 (preserved s e hs hl.1 he) fun before after hsplit => ?_⟩
      exact h (e :: before) after (by rw [hsplit]; rfl)
  · rintro h before after rfl
    have hboth := along_and (along_append.mp hl).1 (along_append.mp h).1
    exact sound _ (run_invariant_along (fun s e hs hp => preserved s e hs hp.1 hp.2) hboth hs)

/-- The same without a condition on the run. -/
theorem always_iff_along {I P : σ → Prop} {C : σ → ε → Prop} (sound : ∀ s, I s → P s)
    (preserved : ∀ s e, I s → C s e → I (step s e))
    (complete : ∀ s e, I s → P (step s e) → C s e) {s : σ} {es : List ε} (hs : I s) :
    (∀ before after, es = before ++ after → P (run step s before)) ↔ Along step C s es :=
  always_iff_along_along sound (fun s e hs _ => preserved s e hs) (fun s e hs _ => complete s e hs)
    (along_of_forall (fun _ _ => trivial) s es) hs

/-- Conditions that agree as long as an invariant holds, which the second of them keeps. -/
theorem along_congr_while {P C L : σ → ε → Prop} {I : σ → Prop}
    (preserved : ∀ s e, I s → L s e → C s e → I (step s e))
    (same : ∀ s e, I s → L s e → (P s e ↔ C s e)) {s : σ} {es : List ε} (hl : Along step L s es)
    (hs : I s) : Along step P s es ↔ Along step C s es := by
  induction es generalizing s with
  | nil => exact Iff.rfl
  | cons e es ih =>
    have he := same s e hs hl.1
    exact ⟨fun h => ⟨he.mp h.1, (ih hl.2 (preserved s e hs hl.1 (he.mp h.1))).mp h.2⟩,
      fun h => ⟨he.mpr h.1, (ih hl.2 (preserved s e hs hl.1 h.1)).mpr h.2⟩⟩

/-- Conditions that agree on the steps that meet `L`, wherever an invariant holds. -/
theorem along_congr_along {P Q L : σ → ε → Prop} {I : σ → Prop}
    (preserved : ∀ s e, I s → L s e → I (step s e)) (same : ∀ s e, I s → L s e → (P s e ↔ Q s e))
    {s : σ} {es : List ε} (hl : Along step L s es) (hs : I s) :
    Along step P s es ↔ Along step Q s es := by
  induction es generalizing s with
  | nil => exact Iff.rfl
  | cons e es ih => exact and_congr (same s e hs hl.1) (ih hl.2 (preserved s e hs hl.1))

/-- A reflexive and transitive relation between the states before and after each step
relates the ends of every run. -/
theorem run_relates {R : σ → σ → Prop} (refl : ∀ s, R s s)
    (trans : ∀ ⦃s t u : σ⦄, R s t → R t u → R s u) (single : ∀ s e, R s (step s e))
    (s : σ) (es : List ε) : R s (run step s es) := by
  induction es generalizing s with
  | nil => exact refl s
  | cons e es ih => exact trans (single s e) (ih _)

section Replies

/-! What an observer sees of each step. -/

variable {ρ : Type} (step)

def replies (answer : σ → ε → ρ) : σ → List ε → List ρ
  | _, [] => []
  | s, e :: es => answer s e :: replies answer (step s e) es

variable {step}

/-- Two machines that answer alike exactly the events that meet `C`, and step alike on these. -/
theorem replies_run_eq_iff {step' : σ → ε → σ} {answer answer' : σ → ε → ρ} {C : σ → ε → Prop}
    {I : σ → Prop} (preserved : ∀ s e, I s → I (step' s e))
    (same : ∀ s e, I s → (answer s e = answer' s e ↔ C s e))
    (together : ∀ s e, I s → C s e → step s e = step' s e) {s : σ} {es : List ε} (hs : I s) :
    (replies step answer s es = replies step' answer' s es ∧ run step s es = run step' s es) ↔
      Along step' C s es := by
  induction es generalizing s with
  | nil => exact iff_of_true ⟨rfl, rfl⟩ trivial
  | cons e es ih =>
    rw [replies, replies, List.cons.injEq, same s e hs, run_cons, run_cons, Along, and_assoc]
    refine and_congr_right fun hc => ?_
    rw [together s e hs hc]
    exact ih (preserved s e hs)

end Replies

section Refinement

/-! Each step of the machine is some steps of a simpler one, on the image of its state. -/

variable {τ δ : Type} (step) (label : σ → ε → List δ)

/-- The events of the simpler machine over a run. -/
def trace : σ → List ε → List δ
  | _, [] => []
  | s, e :: es => label s e ++ trace (step s e) es

variable {step label}

theorem run_refines {astep : τ → δ → τ} {abs : σ → τ} {I : σ → Prop}
    (preserved : ∀ s e, I s → I (step s e))
    (simulates : ∀ s e, I s → abs (step s e) = run astep (abs s) (label s e))
    {s : σ} (hs : I s) (es : List ε) :
    abs (run step s es) = run astep (abs s) (trace step label s es) := by
  induction es generalizing s with
  | nil => rfl
  | cons e es ih =>
    rw [run_cons, ih (preserved s e hs), trace, run_append, simulates s e hs]

theorem forall_mem_trace {P : δ → Prop} {s : σ} {es : List ε}
    (h : Along step (fun s e => ∀ d ∈ label s e, P d) s es) : ∀ d ∈ trace step label s es, P d := by
  induction es generalizing s with
  | nil => intro d hd; cases hd
  | cons e es ih =>
    intro d hd
    rcases List.mem_append.mp hd with hd | hd
    · exact h.1 d hd
    · exact ih h.2 d hd

end Refinement

section Ghost

/-! A ghost component is written by `next` and read by no step. -/

variable {γ : Type} (step) (next : σ → γ → ε → γ)

def withGhost (p : σ × γ) (e : ε) : σ × γ := (step p.1 e, next p.1 p.2 e)

variable {step next}

@[simp] theorem run_withGhost_fst (p : σ × γ) (es : List ε) :
    (run (withGhost step next) p es).1 = run step p.1 es := by
  induction es generalizing p with
  | nil => rfl
  | cons e es ih => exact ih _

theorem along_withGhost {P : σ → ε → Prop} {p : σ × γ} {es : List ε} :
    Along (withGhost step next) (fun p e => P p.1 e) p es ↔ Along step P p.1 es := by
  induction es generalizing p with
  | nil => exact Iff.rfl
  | cons e es ih => exact and_congr_right' ih

end Ghost

end Runs
