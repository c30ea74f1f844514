import Mathlib.Logic.Relation

set_option autoImplicit false

/-!
# Programs that keep their writes when they raise

`EStateM` runs a program on a state and keeps the state at an exception. A relation that
is reflexive and transitive and holds across every write holds across the program.
-/

namespace Effects

variable {ε σ α β : Type}

/-- The state a program leaves, whether it returns or raises. -/
def final (x : EStateM ε σ α) (s : σ) : σ :=
  match x.run s with
  | .ok _ t => t
  | .error _ t => t

def value? (x : EStateM ε σ α) (s : σ) : Option α :=
  match x.run s with
  | .ok a _ => some a
  | .error _ _ => none

theorem final_of_ok {x : EStateM ε σ α} {s t : σ} {a : α} (h : x.run s = .ok a t) :
    final x s = t := by rw [final, h]

theorem final_of_error {x : EStateM ε σ α} {s t : σ} {e : ε} (h : x.run s = .error e t) :
    final x s = t := by rw [final, h]

theorem final_of_run_eq {x y : EStateM ε σ α} {s t : σ} (h : x.run s = y.run t) :
    final x s = final y t := by rw [final, final, h]

theorem value?_eq_some_iff {x : EStateM ε σ α} {s : σ} {a : α} :
    value? x s = some a ↔ x.run s = .ok a (final x s) := by
  unfold value? final
  cases x.run s <;> simp

theorem final_bind (x : EStateM ε σ α) (f : α → EStateM ε σ β) (s : σ) :
    final (x >>= f) s = match x.run s with
      | .ok a t => final (f a) t
      | .error _ t => t := by
  unfold final
  rw [EStateM.run_bind]
  cases x.run s <;> rfl

theorem final_discard (x : EStateM ε σ α) (s : σ) :
    final (do let _ ← x) s = final x s := by
  rw [final_bind]
  unfold final
  cases x.run s <;> rfl

theorem throw_bind (e : ε) (f : α → EStateM ε σ β) :
    (throw e : EStateM ε σ α) >>= f = throw e := rfl

theorem error_bind {x : EStateM ε σ α} {s t : σ} {e : ε} (h : x.run s = .error e t)
    (f : α → EStateM ε σ β) : (x >>= f).run s = .error e t := by
  rw [EStateM.run_bind, h]

theorem final_map (x : EStateM ε σ α) (f : α → β) (s : σ) :
    final (do return f (← x)) s = final x s := by
  rw [final_bind]
  unfold final
  cases x.run s <;> rfl

theorem value?_discard {x : EStateM ε σ α} {s : σ} :
    value? (do let _ ← x) s = some () ↔ (value? x s).isSome := by
  unfold value?
  rw [EStateM.run_bind]
  cases x.run s <;> simp

/-- `try: x; except: f`: what `x` has written before it raised stays. -/
def rescue (x : EStateM ε σ α) (f : ε → EStateM ε σ α) : EStateM ε σ α := fun s =>
  match x.run s with
  | .ok a t => .ok a t
  | .error e t => (f e).run t

theorem rescue_of_ok {x : EStateM ε σ α} {s t : σ} {a : α} (h : x.run s = .ok a t)
    (f : ε → EStateM ε σ α) : (rescue x f).run s = .ok a t := by
  change rescue x f s = _
  rw [rescue, h]

theorem rescue_of_error {x : EStateM ε σ α} {s t : σ} {e : ε} (h : x.run s = .error e t)
    (f : ε → EStateM ε σ α) : (rescue x f).run s = (f e).run t := by
  change rescue x f s = _
  rw [rescue, h]

def Respects (R : σ → σ → Prop) (x : EStateM ε σ α) : Prop := ∀ s, R s (final x s)

variable {R : σ → σ → Prop}

theorem respects_pure (refl : ∀ s, R s s) (a : α) : Respects R (pure a : EStateM ε σ α) :=
  fun s => refl s

theorem respects_throw (refl : ∀ s, R s s) (e : ε) : Respects R (throw e : EStateM ε σ α) :=
  fun s => refl s

theorem respects_bind (trans : ∀ ⦃s t u : σ⦄, R s t → R t u → R s u) {x : EStateM ε σ α}
    {f : α → EStateM ε σ β} (hx : Respects R x) (hf : ∀ a, Respects R (f a)) :
    Respects R (x >>= f) := by
  intro s
  have hs := hx s
  rw [final_bind]
  unfold final at hs
  cases h : x.run s with
  | ok a t =>
    rw [h] at hs
    exact trans hs (hf a t)
  | error e t =>
    rw [h] at hs
    exact hs

theorem respects_forM_of_mem (refl : ∀ s, R s s) (trans : ∀ ⦃s t u : σ⦄, R s t → R t u → R s u)
    {f : α → EStateM ε σ PUnit} {xs : List α} (hf : ∀ a ∈ xs, Respects R (f a)) :
    Respects R (xs.forM f) := by
  induction xs with
  | nil => exact respects_pure refl _
  | cons x xs ih =>
    exact respects_bind trans (hf x List.mem_cons_self) fun _ =>
      ih fun a ha => hf a (List.mem_cons_of_mem x ha)

theorem respects_forM (refl : ∀ s, R s s) (trans : ∀ ⦃s t u : σ⦄, R s t → R t u → R s u)
    {f : α → EStateM ε σ PUnit} (hf : ∀ a, Respects R (f a)) (xs : List α) :
    Respects R (xs.forM f) := respects_forM_of_mem refl trans fun a _ => hf a

theorem ok_of_bind {x : Except ε α} {f : α → Except ε β} {b : β} (h : (x >>= f) = .ok b) :
    ∃ a, x = .ok a ∧ f a = .ok b := by
  cases x with
  | error e => cases h
  | ok a => exact ⟨a, rfl, h⟩

theorem ofExcept_run (x : Except ε α) (s : σ) :
    (ofExcept x : EStateM ε σ α).run s = match x with
      | .ok a => .ok a s
      | .error e => .error e s := by
  cases x <;> rfl

theorem respects_ofExcept (refl : ∀ s, R s s) (x : Except ε α) :
    Respects R (ofExcept x : EStateM ε σ α) := by
  cases x with
  | ok a => exact respects_pure refl a
  | error e => exact respects_throw refl e

theorem final_ofExcept_bind (x : Except ε α) (f : α → EStateM ε σ β) (s : σ) :
    final (ofExcept x >>= f) s = match x with
      | .ok a => final (f a) s
      | .error _ => s := by
  rw [final_bind, ofExcept_run]
  cases x <;> rfl

def Raises (P : ε → Prop) (x : EStateM ε σ α) : Prop := ∀ s e t, x.run s = .error e t → P e

variable {P : ε → Prop}

theorem raises_pure (a : α) : Raises P (pure a : EStateM ε σ α) := fun _ _ _ h => by cases h

theorem raises_throw {e : ε} (he : P e) : Raises P (throw e : EStateM ε σ α) :=
  fun _ _ _ h => by
    cases h
    exact he

theorem raises_get : Raises P (get : EStateM ε σ σ) := fun _ _ _ h => by cases h

theorem raises_modify (f : σ → σ) : Raises P (modify f : EStateM ε σ PUnit) :=
  fun _ _ _ h => by cases h

theorem raises_bind {x : EStateM ε σ α} {f : α → EStateM ε σ β} (hx : Raises P x)
    (hf : ∀ a, Raises P (f a)) : Raises P (x >>= f) := by
  intro s e t h
  rw [EStateM.run_bind] at h
  cases hr : x.run s with
  | ok a u =>
    rw [hr] at h
    exact hf a u e t h
  | error e' u =>
    rw [hr] at h
    cases h
    exact hx s _ _ hr

section Zoom

/-! A program on one part of a larger state. -/

variable {τ : Type} (part : τ → σ) (put : σ → τ → τ)

def zoom (x : EStateM ε σ α) : EStateM ε τ α := fun s =>
  match x.run (part s) with
  | .ok a t => .ok a (put t s)
  | .error e t => .error e (put t s)

theorem zoom_run (x : EStateM ε σ α) (s : τ) : (zoom part put x).run s =
    match x.run (part s) with
    | .ok a t => .ok a (put t s)
    | .error e t => .error e (put t s) := rfl

end Zoom

section Simulation

/-! A program on a detailed state that does, seen through `view`, what a simpler one does, from
the states that meet `I`, which it keeps. -/

variable {τ : Type} (I : σ → Prop) (view : σ → τ)

def Simulates (x : EStateM ε σ α) (y : EStateM ε τ α) : Prop :=
  ∀ s, I s → I (final x s) ∧ y.run (view s) = match x.run s with
    | .ok a t => .ok a (view t)
    | .error e t => .error e (view t)

variable {I view}

theorem simulates_pure (a : α) :
    Simulates I view (pure a : EStateM ε σ α) (pure a : EStateM ε τ α) := fun _ hs => ⟨hs, rfl⟩

theorem simulates_throw (e : ε) :
    Simulates I view (throw e : EStateM ε σ α) (throw e : EStateM ε τ α) := fun _ hs => ⟨hs, rfl⟩

theorem simulates_ofExcept (x : Except ε α) :
    Simulates I view (ofExcept x : EStateM ε σ α) (ofExcept x : EStateM ε τ α) := by
  cases x with
  | ok a => exact simulates_pure a
  | error e => exact simulates_throw e

theorem simulates_modify {f : σ → σ} {g : τ → τ} (hI : ∀ s, I s → I (f s))
    (h : ∀ s, g (view s) = view (f s)) :
    Simulates I view (modify f : EStateM ε σ PUnit) (modify g : EStateM ε τ PUnit) :=
  fun s hs => ⟨hI s hs, congrArg (EStateM.Result.ok PUnit.unit) (h s)⟩

theorem simulates_bind {x : EStateM ε σ α} {y : EStateM ε τ α} {f : α → EStateM ε σ β}
    {g : α → EStateM ε τ β} (hx : Simulates I view x y) (hf : ∀ a, Simulates I view (f a) (g a)) :
    Simulates I view (x >>= f) (y >>= g) := by
  intro s hs
  obtain ⟨hI, heq⟩ := hx s hs
  rw [final_bind, EStateM.run_bind, EStateM.run_bind, heq]
  unfold final at hI
  cases h : x.run s with
  | ok a t =>
    rw [h] at hI
    exact hf a t hI
  | error e t =>
    rw [h] at hI
    exact ⟨hI, rfl⟩

/-- A program that goes on by what it reads of the state. -/
theorem simulates_get_bind {f : σ → EStateM ε σ β} {g : τ → EStateM ε τ β}
    (h : ∀ s, Simulates I view (f s) (g (view s))) :
    Simulates I view (get >>= f) (get >>= g) := fun s hs => h s s hs

/-- A write that the view does not show. -/
theorem simulates_skip {f : σ → σ} {k : PUnit → EStateM ε σ α} {y : EStateM ε τ α}
    (hI : ∀ s, I s → I (f s)) (h : ∀ s, view (f s) = view s) (hk : Simulates I view (k ⟨⟩) y) :
    Simulates I view (modify f >>= k) y := by
  intro s hs
  have hrest := hk (f s) (hI s hs)
  rwa [h s] at hrest

/-- A program on what the view shows. -/
theorem simulates_zoom {put : τ → σ → σ} (hI : ∀ t s, I s → I (put t s))
    (h : ∀ t s, view (put t s) = t) (x : EStateM ε τ α) : Simulates I view (zoom view put x) x := by
  intro s hs
  unfold final
  rw [zoom_run]
  cases x.run (view s) with
  | ok a t => exact ⟨hI t s hs, congrArg (EStateM.Result.ok a) (h t s).symm⟩
  | error e t => exact ⟨hI t s hs, congrArg (EStateM.Result.error e) (h t s).symm⟩

theorem simulates_rescue {x : EStateM ε σ α} {y : EStateM ε τ α} {f : ε → EStateM ε σ α}
    {g : ε → EStateM ε τ α} (hx : Simulates I view x y) (hf : ∀ e, Simulates I view (f e) (g e)) :
    Simulates I view (rescue x f) (rescue y g) := by
  intro s hs
  obtain ⟨hI, heq⟩ := hx s hs
  unfold final at hI ⊢
  cases h : x.run s with
  | ok a t =>
    rw [h] at hI heq
    rw [rescue_of_ok h, rescue_of_ok heq]
    exact ⟨hI, rfl⟩
  | error e t =>
    rw [h] at hI heq
    rw [rescue_of_error h, rescue_of_error heq]
    exact hf e t hI

theorem simulates_ite {p : Prop} [Decidable p] {x x' : EStateM ε σ α} {y y' : EStateM ε τ α}
    (h : Simulates I view x y) (h' : Simulates I view x' y') :
    Simulates I view (if p then x else x') (if p then y else y') := by
  split
  · exact h
  · exact h'

end Simulation

section Agreement

/-! Programs that do the same from the states that meet `P`. What they return leaves a state that
meets `M` with it, and what they raise leaves one that meets `E`. -/

variable {P E : σ → Prop} {M : α → σ → Prop} {N : β → σ → Prop}

def Agree (P : σ → Prop) (M : α → σ → Prop) (E : σ → Prop) (x y : EStateM ε σ α) : Prop :=
  ∀ s, P s → y.run s = x.run s ∧ match x.run s with
    | .ok a t => M a t
    | .error _ t => E t

theorem agree_pure (a : α) (h : ∀ s, P s → M a s) :
    Agree P M E (pure a : EStateM ε σ α) (pure a) := fun s hs => ⟨rfl, h s hs⟩

theorem agree_throw (e : ε) (h : ∀ s, P s → E s) :
    Agree P M E (throw e : EStateM ε σ α) (throw e) := fun s hs => ⟨rfl, h s hs⟩

theorem agree_ofExcept (x : Except ε α) (hok : ∀ a s, P s → M a s) (herr : ∀ s, P s → E s) :
    Agree P M E (ofExcept x : EStateM ε σ α) (ofExcept x) := by
  cases x with
  | ok a => exact agree_pure a (hok a)
  | error e => exact agree_throw e herr

theorem agree_modify {f : σ → σ} {M : PUnit → σ → Prop} (h : ∀ s, P s → M ⟨⟩ (f s)) :
    Agree P M E (modify f : EStateM ε σ PUnit) (modify f) := fun s hs => ⟨rfl, h s hs⟩

/-- One program, which keeps what its states have in common. -/
theorem agree_keeps {Q : σ → Prop} {x : EStateM ε σ α} (h : ∀ s, P s → Q (final x s)) :
    Agree P (fun _ => Q) Q x x := by
  intro s hs
  refine ⟨rfl, ?_⟩
  have hq := h s hs
  unfold final at hq
  cases hx : x.run s with
  | ok a t => rwa [hx] at hq
  | error e t => rwa [hx] at hq

theorem agree_bind {x y : EStateM ε σ α} {f g : α → EStateM ε σ β} (hx : Agree P M E x y)
    (hf : ∀ a, Agree (M a) N E (f a) (g a)) : Agree P N E (x >>= f) (y >>= g) := by
  intro s hs
  obtain ⟨hsame, hend⟩ := hx s hs
  rw [EStateM.run_bind, EStateM.run_bind, hsame]
  cases h : x.run s with
  | ok a t =>
    rw [h] at hend
    exact hf a t hend
  | error e t =>
    rw [h] at hend
    exact ⟨rfl, hend⟩

/-- Programs that go on by what they read of the state. -/
theorem agree_get_bind {f g : σ → EStateM ε σ β}
    (h : ∀ s, P s → Agree (· = s) N E (f s) (g s)) : Agree P N E (get >>= f) (get >>= g) :=
  fun s hs => h s hs s rfl

theorem agree_of_imp {P' : σ → Prop} {x y : EStateM ε σ α} (hp : ∀ s, P' s → P s)
    (h : Agree P M E x y) : Agree P' M E x y := fun s hs => h s (hp s hs)

theorem final_of_agree {Q : σ → Prop} {x y : EStateM ε σ α} (h : Agree P (fun _ => Q) Q x y)
    {s : σ} (hs : P s) : Q (final x s) := by
  have hend := (h s hs).2
  unfold final
  cases hx : x.run s with
  | ok a t => rwa [hx] at hend
  | error e t => rwa [hx] at hend

/-- `try: x; finally: f` -/
def ensure (x : EStateM ε σ α) (f : EStateM ε σ PUnit) : EStateM ε σ α := fun s =>
  match x.run s with
  | .ok a t => (do f; return a : EStateM ε σ α).run t
  | .error e t => (do f; throw e : EStateM ε σ α).run t

theorem agree_ensure {Q : σ → Prop} {x y : EStateM ε σ α} {f : EStateM ε σ PUnit}
    (hx : Agree P (fun _ => Q) Q x y) (hf : ∀ s, Q s → E (final f s)) :
    Agree P (fun _ => E) E (ensure x f) (ensure y f) := by
  intro s hs
  obtain ⟨hsame, hend⟩ := hx s hs
  have hlast : Agree Q (fun _ => E) E f f := agree_keeps hf
  change ensure y f s = ensure x f s ∧ match ensure x f s with
    | .ok _ t => E t
    | .error _ t => E t
  unfold ensure
  rw [hsame]
  cases h : x.run s with
  | ok a t =>
    rw [h] at hend
    exact agree_bind hlast (fun _ => agree_pure a fun _ he => he) t hend
  | error e t =>
    rw [h] at hend
    exact agree_bind (N := fun _ => E) hlast (fun _ => agree_throw e fun _ he => he) t hend

end Agreement

section Mirror

/-! A program that does on the image of a state what another does on the state, its results and
exceptions being the images of the other's. -/

variable {τ ε' α' β' : Type} (view : σ → τ) (err : ε → ε')

def Mirrors (val : α → α') (s : σ) (x : EStateM ε σ α) (y : EStateM ε' τ α') : Prop :=
  y.run (view s) = match x.run s with
    | .ok a t => .ok (val a) (view t)
    | .error e t => .error (err e) (view t)

variable {view err} {s : σ}

theorem mirrors_pure {val : α → α'} {a : α} {a' : α'} (h : a' = val a) :
    Mirrors view err val s (pure a) (pure a') := by
  cases h
  rfl

theorem mirrors_throw {val : α → α'} {e : ε} {e' : ε'} (h : e' = err e) :
    Mirrors view err val s (throw e) (throw e') := by
  cases h
  rfl

theorem mirrors_bind {val : α → α'} {wal : β → β'} {x : EStateM ε σ α} {y : EStateM ε' τ α'}
    {f : α → EStateM ε σ β} {g : α' → EStateM ε' τ β'} (hx : Mirrors view err val s x y)
    (hf : ∀ a t, x.run s = .ok a t → Mirrors view err wal t (f a) (g (val a))) :
    Mirrors view err wal s (x >>= f) (y >>= g) := by
  unfold Mirrors at hx ⊢
  rw [EStateM.run_bind, EStateM.run_bind, hx]
  cases h : x.run s with
  | ok a t => exact hf a t h
  | error e t => rfl

theorem mirrors_map {val : α → α'} {wal : β → β'} {x : EStateM ε σ α} {y : EStateM ε' τ α'}
    (hx : Mirrors view err val s x y) {f : α → β} {g : α' → β'} (h : ∀ a, g (val a) = wal (f a)) :
    Mirrors view err wal s (do return f (← x)) (do return g (← y)) :=
  mirrors_bind hx fun a _ _ => mirrors_pure (h a)

theorem mirrors_get_bind {val : α → α'} {f : σ → EStateM ε σ α} {g : τ → EStateM ε' τ α'}
    (h : Mirrors view err val s (f s) (g (view s))) :
    Mirrors view err val s (get >>= f) (get >>= g) := h

/-- A look at the image that the other program does not need. -/
theorem mirrors_get_right {val : α → α'} {x : EStateM ε σ α} {g : τ → EStateM ε' τ α'}
    (h : Mirrors view err val s x (g (view s))) : Mirrors view err val s x (get >>= g) := h

theorem mirrors_mapM {γ γ' : Type} {val : α → α'} {image : γ → γ'} {f : γ → EStateM ε σ α}
    {g : γ' → EStateM ε' τ α'} {xs : List γ}
    (hf : ∀ a ∈ xs, Mirrors view err val s (f a) (g (image a)))
    (hs : ∀ a ∈ xs, final (f a) s = s) :
    Mirrors view err (List.map val) s (xs.mapM f) ((xs.map image).mapM g) := by
  induction xs with
  | nil => rfl
  | cons x xs ih =>
    rw [List.map_cons, List.mapM_cons, List.mapM_cons]
    refine mirrors_bind (hf x List.mem_cons_self) fun a t ht => ?_
    have hstays := hs x List.mem_cons_self
    rw [final_of_ok ht] at hstays
    subst hstays
    have htail := ih (fun b hb => hf b (List.mem_cons_of_mem x hb))
      fun b hb => hs b (List.mem_cons_of_mem x hb)
    exact mirrors_bind htail fun as _ _ => rfl

theorem mirrors_modify {f : σ → σ} {g : τ → τ} (h : g (view s) = view (f s)) :
    Mirrors view err id s (modify f : EStateM ε σ PUnit) (modify g : EStateM ε' τ PUnit) :=
  congrArg (EStateM.Result.ok PUnit.unit) h

/-- A check that the image passes, and that the other program need not make. -/
theorem mirrors_passed {γ : Type} {val : α → α'} {x : EStateM ε σ α} {c : Except ε' γ}
    {g : γ → EStateM ε' τ α'} {a : γ} (hc : c = .ok a) (h : Mirrors view err val s x (g a)) :
    Mirrors view err val s x (ofExcept c >>= g) := by
  cases hc
  exact h

/-- A check of the program that the image need not make. -/
theorem mirrors_passed_left {γ : Type} {val : α → α'} {c : EStateM ε σ γ} {a : γ}
    (hc : c.run s = .ok a s) {f : γ → EStateM ε σ α} {y : EStateM ε' τ α'}
    (h : Mirrors view err val s (f a) y) : Mirrors view err val s (c >>= f) y := by
  unfold Mirrors at h ⊢
  rw [EStateM.run_bind, hc]
  exact h

theorem mirrors_of_run_eq {val : α → α'} {x x' : EStateM ε σ α} {y : EStateM ε' τ α'}
    (h : x.run s = x'.run s) (hx : Mirrors view err val s x' y) : Mirrors view err val s x y := by
  unfold Mirrors at hx ⊢
  rwa [h]

/-- A look at the state that the image does not need. -/
theorem mirrors_get_left {val : α → α'} {f : σ → EStateM ε σ α} {y : EStateM ε' τ α'}
    (h : Mirrors view err val s (f s) y) : Mirrors view err val s (get >>= f) y := h

end Mirror

end Effects
