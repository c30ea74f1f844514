import Trimtab.Effects

set_option autoImplicit false

/-!
# Programs that check before they write

A check passes, or it fails with an exception. The caller answers some exceptions, as long as
nothing was written before them, and no others.
-/
namespace Checks
open Effects

inductive Verdict where
  | fine
  | refused
  | broken
  deriving DecidableEq

def first : List Verdict → Verdict
  | [] => .fine
  | .fine :: vs => first vs
  | v :: _ => v

@[simp] theorem first_nil : first [] = .fine := rfl

@[simp] theorem first_fine (vs : List Verdict) : first (.fine :: vs) = first vs := rfl

@[simp] theorem first_refused (vs : List Verdict) : first (.refused :: vs) = .refused := rfl

@[simp] theorem first_broken (vs : List Verdict) : first (.broken :: vs) = .broken := rfl

@[simp] theorem first_singleton (v : Verdict) : first [v] = v := by
  cases v <;> rfl

theorem first_append (us vs : List Verdict) : first (us ++ vs) = first (first us :: vs) := by
  induction us with
  | nil => rfl
  | cons u us ih =>
    cases u with
    | fine => exact ih
    | refused => rfl
    | broken => rfl

theorem first_pair (v : Verdict) (vs : List Verdict) : first [v, first vs] = first (v :: vs) := by
  cases v with
  | fine => rw [first_fine, first_fine, first_singleton]
  | refused => rfl
  | broken => rfl

variable {ε σ α β : Type} (answered : ε → Bool)

def judge : Except ε α → Verdict
  | .ok _ => .fine
  | .error e => if answered e then .refused else .broken

def outcome [DecidableEq σ] (s : σ) : EStateM.Result ε σ α → Verdict
  | .ok _ _ => .fine
  | .error e t => if answered e ∧ t = s then .refused else .broken

/-- From `s` the program does no more than to pass or fail the check. -/
def Reads (y : EStateM ε σ α) (s : σ) (x : Except ε α) : Prop :=
  y.run s = (ofExcept x : EStateM ε σ α).run s

theorem reads_ofExcept (x : Except ε α) (s : σ) : Reads (ofExcept x : EStateM ε σ α) s x := rfl

theorem reads_bind {y : EStateM ε σ α} {f : α → EStateM ε σ β} {s : σ} {x : Except ε α}
    {g : α → Except ε β} (hy : Reads y s x) (hf : ∀ a, x = .ok a → Reads (f a) s (g a)) :
    Reads (y >>= f) s (x >>= g) := by
  unfold Reads at hy ⊢
  rw [EStateM.run_bind, hy, ofExcept_run]
  cases x with
  | error e => rfl
  | ok a => exact hf a rfl

theorem reads_get_bind {f : σ → EStateM ε σ α} {s : σ} {x : Except ε α} (h : Reads (f s) s x) :
    Reads (get >>= f) s x := h

theorem reads_mapM {f : α → EStateM ε σ β} {g : α → Except ε β} {s : σ} {xs : List α}
    (h : ∀ a ∈ xs, Reads (f a) s (g a)) : Reads (xs.mapM f) s (xs.mapM g) := by
  induction xs with
  | nil => rfl
  | cons x xs ih =>
    rw [List.mapM_cons, List.mapM_cons]
    refine reads_bind (h x List.mem_cons_self) fun y _ => ?_
    exact reads_bind (ih fun a ha => h a (List.mem_cons_of_mem x ha)) fun ys _ => rfl

theorem final_reads {y : EStateM ε σ α} {s : σ} {x : Except ε α} (h : Reads y s x) :
    final y s = s := by
  rw [final_of_run_eq h]
  unfold final
  rw [ofExcept_run]
  cases x <;> rfl

/-- What follows a check that passes decides what becomes of the state. -/
theorem related_check {R : σ → σ → Prop} {y : EStateM ε σ α} {f : α → EStateM ε σ β} {s : σ}
    {x : Except ε α} (hy : Reads y s x) (hs : R s s) (hf : ∀ a, x = .ok a → R s (final (f a) s)) :
    R s (final (y >>= f) s) := by
  rw [final_bind, hy, ofExcept_run]
  cases x with
  | error e => exact hs
  | ok a => exact hf a rfl

theorem judge_bind {x : Except ε α} {g : α → Except ε β} {v w : Verdict}
    (hx : judge answered x = v) (hg : ∀ a, x = .ok a → judge answered (g a) = w) :
    judge answered (x >>= g) = first [v, w] := by
  subst hx
  cases x with
  | error e =>
    change judge answered (.error e : Except ε β) = _
    unfold judge
    by_cases he : answered e = true
    · simp only [he, if_true, first_refused]
    · simp only [he, if_false, first_broken, Bool.false_eq_true]
  | ok a =>
    change judge answered (g a) = _
    rw [hg a rfl]
    exact (first_singleton w).symm

theorem judge_map {x : Except ε α} {v : Verdict} (h : judge answered x = v) (f : α → β) :
    judge answered (do return f (← x)) = v := by
  subst h
  cases x <;> rfl

theorem judge_mapM {g : α → Except ε β} {v : α → Verdict} {xs : List α}
    (h : ∀ a ∈ xs, judge answered (g a) = v a) : judge answered (xs.mapM g) = first (xs.map v) := by
  induction xs with
  | nil => rfl
  | cons x xs ih =>
    have htail := ih fun a ha => h a (List.mem_cons_of_mem x ha)
    rw [List.mapM_cons, List.map_cons, ← first_pair]
    exact judge_bind answered (h x List.mem_cons_self) fun y _ => judge_map answered htail (y :: ·)

variable [DecidableEq σ] {answered}

theorem outcome_error_ne_broken_iff {s t : σ} {e : ε} :
    outcome answered s (.error e t : EStateM.Result ε σ α) ≠ .broken ↔
      answered e = true ∧ t = s := by
  unfold outcome
  split <;> simp_all

theorem outcome_reads {y : EStateM ε σ α} {s : σ} {x : Except ε α} (h : Reads y s x) :
    outcome answered s (y.run s) = judge answered x := by
  rw [h, ofExcept_run]
  cases x with
  | ok a => rfl
  | error e => simp [outcome, judge]

theorem outcome_get_bind {f : σ → EStateM ε σ α} {s : σ} :
    outcome answered s ((get >>= f).run s) = outcome answered s ((f s).run s) := rfl

theorem outcome_map (y : EStateM ε σ α) (f : α → β) (s t : σ) :
    outcome answered s ((do return f (← y)).run t) = outcome answered s (y.run t) := by
  rw [EStateM.run_bind]
  cases y.run t <;> rfl

/-- A check that passes. -/
theorem outcome_passed {y : EStateM ε σ α} {f : α → EStateM ε σ β} {s : σ} {a : α}
    (hy : Reads y s (.ok a)) :
    outcome answered s ((y >>= f).run s) = outcome answered s ((f a).run s) := by
  rw [EStateM.run_bind, hy]
  rfl

/-- A check, and what follows when it passes. -/
theorem outcome_check {y : EStateM ε σ α} {f : α → EStateM ε σ β} {s : σ} {x : Except ε α}
    {v : Verdict} {vs : List Verdict} (hy : Reads y s x) (hx : judge answered x = v)
    (hf : ∀ a, x = .ok a → outcome answered s ((f a).run s) = first vs) :
    outcome answered s ((y >>= f).run s) = first (v :: vs) := by
  subst hx
  rw [EStateM.run_bind, hy, ofExcept_run]
  cases x with
  | error e =>
    unfold outcome judge
    by_cases he : answered e = true
    · simp only [he, true_and, if_true, first_refused]
    · simp only [he, false_and, if_false, first_broken, Bool.false_eq_true]
  | ok a => exact hf a rfl

/-- Rows written one by one, each after its own check: what the rows before the first unfit one
have written decides. -/
theorem outcome_forM {f : α → EStateM ε σ PUnit} {v : α → Verdict} {put : σ → α → σ}
    (hfine : ∀ a t, v a = .fine → (f a).run t = .ok ⟨⟩ (put t a))
    (hunfit : ∀ a t, v a ≠ .fine →
      ∃ e, (f a).run t = .error e t ∧ (answered e = true ↔ v a = .refused))
    (xs : List α) (s t : σ) :
    outcome answered s ((xs.forM f).run t) =
      match (xs.dropWhile fun a => v a = .fine).head? with
      | none => .fine
      | some a =>
        if v a = .refused ∧ (xs.takeWhile fun a => v a = .fine).foldl put t = s then .refused
        else .broken := by
  induction xs generalizing t with
  | nil => rfl
  | cons x xs ih =>
    change outcome answered s ((f x >>= fun _ => xs.forM f).run t) = _
    rw [EStateM.run_bind]
    simp only [List.dropWhile_cons, List.takeWhile_cons]
    by_cases hx : v x = .fine
    · simp only [hfine x t hx, hx, decide_true, if_true]
      exact ih (put t x)
    · obtain ⟨e, he, hanswer⟩ := hunfit x t hx
      simp only [he, hx, decide_false, Bool.false_eq_true, if_false, outcome, hanswer,
        List.head?_cons, List.foldl_nil]

end Checks
