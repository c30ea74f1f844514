import Mathlib.Data.Set.Finite.Basic
import Trimtab.ManifestText
import Trimtab.PyNumbers
import Trimtab.ReconcilerPending

set_option autoImplicit false

/-!
# The boundary

Which values pass the check of a manifest, whatever texts stand in it, and which of them a tick of
the hot path sends to `set_hot`.
-/
theorem Json.num?_eq_nan {v : Json} : v.num? = some .nan ↔ v = .float .nan := by
  cases v <;> simp [Json.num?]

namespace Trimtab
open PyText Effects Runs

/-- `v` is of the type a manifest calls `vtype`. Any other name is of no type. -/
def hasType (vtype : String) (v : Json) : Bool :=
  if vtype = "str" then v.typeName = "str"
  else if vtype = "int" then !v.isBool && v.isInt
  else if vtype = "float" then !v.isBool && v.num?.isSome
  else false

def Knob.AmongChoices (knob : Knob) (v : Json) : Prop :=
  knob.choices = [] ∨ lower v.pyStr ∈ knob.choices.map lower

structure Knob.WellTyped (knob : Knob) (v : Json) : Prop where
  hot : knob.klass = HOT
  typed : hasType knob.vtype v = true
  min : ∀ lo, knob.vmin = some lo → ∃ x, v.num? = some x ∧ lo.atMost x = true
  max : ∀ hi, knob.vmax = some hi → ∃ x, v.num? = some x ∧ x.atMost hi = true
  choice : knob.AmongChoices v

def Manifest.WellTyped (m : Manifest) (changes : Fields) : Prop :=
  ∀ k v, changes.get? k = some v → ∃ knob, m.knobs.get? k = some knob ∧ knob.WellTyped v

/-- Only well-typed hot values are accepted, as they are, and every other change is refused. -/
structure Manifest.Sound (m : Manifest) (changes : Fields) : Prop where
  parted : ∀ k v, changes.get? k = some v →
    Xor (((m.validate changes).1.get? k).isSome = true) (((m.validate changes).2.get? k).isSome = true)
  nothingElse : ∀ k, changes.get? k = none →
    (m.validate changes).1.get? k = none ∧ (m.validate changes).2.get? k = none
  unchanged : ∀ k v, (m.validate changes).1.get? k = some v → changes.get? k = some v
  wellTyped : m.WellTyped (m.validate changes).1

/-! ### What a tick sends -/

/-- An engine, and what `set_hot` has been called with. -/
structure Sending (σ : Type) where
  engine : σ
  sent : List Fields

namespace Sending
open Reconciler
open ReconcilerPending (Event)

variable {σ : Type} (m : Manifest) (setHot : Fields → EStateM PyErr σ ApplyResult)
  (replicaId group : String)

def onEngine {α : Type} (x : EStateM PyErr σ α) : EStateM PyErr (Sending σ) α :=
  zoom (·.engine) (fun engine s => { s with engine := engine }) x

def logged (changes : Fields) : EStateM PyErr (Sending σ) ApplyResult := do
  modify fun s => { s with sent := s.sent ++ [changes] }
  onEngine (setHot changes)

/-- Anyone may use the store between two ticks, and the engine may change in any way. -/
def step (s : Reconciling (Sending σ)) : Event σ → Reconciling (Sending σ)
  | .plane op => { s with store := op.apply s.store }
  | .engine after => { s with engine := { s.engine with engine := after } }
  | .tick => final (tickOver m (logged setHot) replicaId group) s

end Sending

/-- The manifest lets only well-typed hot values pass, and no tick sends anything else. -/
structure Manifest.Guards (m : Manifest) : Prop where
  sound : ∀ changes, m.Sound changes
  sent : ∀ (σ : Type) (setHot : Fields → EStateM PyErr σ ApplyResult) (replicaId group : String)
    (store : Store) (applied : Option Int) (engine : σ) (es : List (ReconcilerPending.Event σ)),
    ∀ changes ∈ (run (Sending.step m setHot replicaId group)
      ⟨store, applied, ⟨engine, []⟩⟩ es).engine.sent, m.WellTyped changes

/-! ### What a declaration must be -/

def Knob.Outside (knob : Knob) (n : Int) : Prop :=
  (∃ lo, knob.vmin = some lo ∧ (PyFloat.fin n).lt lo = true) ∨
    ∃ hi, knob.vmax = some hi ∧ hi.lt (.fin n) = true

/-- Nothing in the declaration of a hot knob that the tests pass over. A text has no bounds, and
nothing but an integer has its text among the choices. A float may be `NaN`, which no bound stops. -/
def Knob.Tested (knob : Knob) : Prop :=
  (knob.vtype = "str" ∧ knob.vmin = none ∧ knob.vmax = none) ∨
  (knob.vtype = "int" ∧ knob.vmin ≠ some .nan ∧ knob.vmax ≠ some .nan ∧
    (knob.choices = [] ∨ ∀ n, ¬knob.Outside n → n.repr ∈ knob.choices.map lower)) ∨
  knob.vtype = "float" ∧ knob.vmin = none ∧ knob.vmax = none ∧ knob.choices = []

/-- The class is one of the three that are refused, or no integer is within the bounds, or the
class is hot and the tests see all of the declaration. -/
def Knob.Declared (knob : Knob) : Prop :=
  knob.klass ∈ [COLD, WARM, DEFERRED] ∨ (knob.vtype = "int" ∧ ∀ n, knob.Outside n) ∨
    knob.klass = HOT ∧ knob.Tested

def Manifest.Declared (m : Manifest) : Prop :=
  ∀ k knob, m.knobs.get? k = some knob → knob.Declared

/-! ### Values and tests -/

/-- The class is none of the three that are refused, and the value passes the other tests. -/
def Knob.passes (knob : Knob) (v : Json) : Bool :=
  !([COLD, WARM, DEFERRED].contains knob.klass) &&
    (if knob.vtype = "str" then knob.checkStr v else knob.checkNumber v).isNone

structure Knob.Exact (knob : Knob) (v : Json) : Prop where
  hot : knob.klass = HOT
  str : knob.vtype = "str" → knob.vmin = none ∧ knob.vmax = none
  number : knob.vtype ≠ "str" → (knob.vtype = "int" ∨ knob.vtype = "float") ∧ knob.AmongChoices v
  noNan : knob.vtype ≠ "str" → ∀ bound, knob.vmin = some bound ∨ knob.vmax = some bound →
    bound ≠ .nan ∧ v ≠ .float .nan

theorem reject_eq_none_iff {m : Manifest} {k : String} {v : Json} :
    m.reject k v = none ↔ ∃ knob, m.knobs.get? k = some knob ∧ knob.passes v = true := by
  unfold Manifest.reject Knob.passes
  cases m.knobs.get? k with
  | none => simp
  | some knob =>
    simp only [Option.some.injEq, exists_eq_left', Bool.and_eq_true, Bool.not_eq_true',
      Option.isNone_iff_eq_none, List.contains_eq_mem, List.mem_cons, List.not_mem_nil, or_false,
      decide_eq_false_iff_not, not_or]
    split_ifs <;> simp_all

/-- A test that a bound fails is not passed. -/
theorem bound_iff {v : Json} {bound : Option PyFloat} {fails : PyFloat → PyFloat → Bool}
    (hnum : v.num?.isSome = true)
    (hpass : bound.any (fun b => v.num?.any (fails b)) = false) {r : PyFloat → PyFloat → Bool}
    (hr : ∀ b x, r b x = true ↔ fails b x = false ∧ b ≠ .nan ∧ x ≠ .nan) :
    (∀ b, bound = some b → ∃ x, v.num? = some x ∧ r b x = true) ↔
      ∀ b, bound = some b → b ≠ .nan ∧ v ≠ .float .nan := by
  obtain ⟨x, hx⟩ := Option.isSome_iff_exists.mp hnum
  refine forall₂_congr fun b hb => ?_
  have hfails : fails b x = false := by simpa [hb, hx] using hpass
  have hnan : v = .float .nan ↔ x = .nan := by rw [← Json.num?_eq_nan, hx, Option.some.injEq]
  simp only [hx, Option.some.injEq, exists_eq_left', hr, hfails, ne_eq, hnan, true_and]

theorem str_of_passes {knob : Knob} {v : Json} (hstr : knob.vtype = "str")
    (h : knob.passes v = true) : ∃ s, v = .str s ∧ knob.AmongChoices v := by
  simp only [Knob.passes, hstr, if_true, Bool.and_eq_true, Option.isNone_iff_eq_none] at h
  cases v with
  | str s =>
    refine ⟨s, rfl, ?_⟩
    by_cases hc : knob.choices = []
    · exact .inl hc
    · by_cases hmem : lower s ∈ knob.choices.map lower
      · exact .inr hmem
      · simp [Knob.checkStr, hc, hmem] at h
  | _ => cases h.2

theorem number_of_passes {knob : Knob} {v : Json} (hstr : knob.vtype ≠ "str")
    (h : knob.passes v = true) : v.isBool = false ∧ v.num?.isSome = true ∧
      (knob.vtype = "int" → v.isInt = true) ∧ knob.vmin.any (below v) = false ∧
      knob.vmax.any (above v) = false := by
  simp only [Knob.passes, hstr, if_false, Bool.and_eq_true, Option.isNone_iff_eq_none] at h
  obtain ⟨hbool, htype, hmin⟩ := checkNumber_eq_none h.2
  have hmax : knob.vmax.any (above v) = false := by
    by_contra hmax
    have hcheck := h.2
    have htest : (v.isBool || !(if knob.vtype = "int" then v.isInt else v.num?.isSome)) = false := by
      rw [hbool, htype]
      rfl
    rw [Knob.checkNumber, htest, if_neg Bool.false_ne_true, hmin, if_neg Bool.false_ne_true,
      if_pos (Bool.eq_true_of_not_eq_false hmax)] at hcheck
    cases hcheck
  by_cases hint : knob.vtype = "int"
  · rw [if_pos hint] at htype
    refine ⟨hbool, ?_, fun _ => htype, hmin, hmax⟩
    cases v with
    | int n => rfl
    | bool b => rfl
    | _ => cases htype
  · rw [if_neg hint] at htype
    exact ⟨hbool, htype, fun h => absurd h hint, hmin, hmax⟩

theorem below_eq (v : Json) (b : PyFloat) : below v b = v.num?.any fun x => x.lt b := by
  unfold below
  cases v.num? <;> rfl

theorem above_eq (v : Json) (b : PyFloat) : above v b = v.num?.any fun x => b.lt x := by
  unfold above
  cases v.num? <;> rfl

/-- A value that passes is well typed exactly where the tests pass over nothing. -/
theorem wellTyped_iff_exact {knob : Knob} {v : Json} (h : knob.passes v = true) :
    knob.WellTyped v ↔ knob.Exact v := by
  by_cases hstr : knob.vtype = "str"
  · obtain ⟨s, rfl, hchoice⟩ := str_of_passes hstr h
    constructor
    · intro hw
      refine ⟨hw.hot, fun _ => ⟨?_, ?_⟩, fun hne => absurd hstr hne, fun hne => absurd hstr hne⟩
      · refine Option.eq_none_iff_forall_ne_some.mpr fun lo hlo => ?_
        obtain ⟨x, hx, -⟩ := hw.min lo hlo
        cases hx
      · refine Option.eq_none_iff_forall_ne_some.mpr fun hi hhi => ?_
        obtain ⟨x, hx, -⟩ := hw.max hi hhi
        cases hx
    · intro he
      obtain ⟨hmin, hmax⟩ := he.str hstr
      refine ⟨he.hot, by rw [hasType, if_pos hstr]; rfl, fun lo hlo => ?_, fun hi hhi => ?_, hchoice⟩
      · rw [hmin] at hlo
        cases hlo
      · rw [hmax] at hhi
        cases hhi
  · obtain ⟨hbool, hnum, hint, hbelow, habove⟩ := number_of_passes hstr h
    rw [funext (below_eq v)] at hbelow
    rw [funext (above_eq v)] at habove
    have hmin := bound_iff hnum hbelow (fun b x => PyFloat.atMost_iff (a := b) (b := x))
    have hmax := bound_iff (r := fun b x => x.atMost b) hnum habove fun b x => by
      rw [PyFloat.atMost_iff, and_comm (a := x ≠ .nan)]
    have htype : hasType knob.vtype v = true ↔ knob.vtype = "int" ∨ knob.vtype = "float" := by
      rw [hasType, if_neg hstr, hbool]
      split_ifs with hi hf
      · simp [hint hi, hi]
      · simp [hnum, hf]
      · simp [hi, hf]
    constructor
    · intro hw
      refine ⟨hw.hot, fun hs => absurd hs hstr, fun _ => ⟨htype.mp hw.typed, hw.choice⟩, ?_⟩
      rintro - bound (hb | hb)
      · exact hmin.mp hw.min bound hb
      · exact hmax.mp hw.max bound hb
    · intro he
      exact ⟨he.hot, htype.mpr (he.number hstr).1, hmin.mpr fun b hb => he.noNan hstr b (.inl hb),
        hmax.mpr fun b hb => he.noNan hstr b (.inr hb), (he.number hstr).2⟩

/-- Every change is accepted or refused, whatever the manifest. -/
theorem validate_parts (m : Manifest) (changes : Fields) {k : String} {v : Json}
    (hk : changes.get? k = some v) :
    Xor (((m.validate changes).1.get? k).isSome = true)
      (((m.validate changes).2.get? k).isSome = true) := by
  cases hr : m.reject k v with
  | none =>
    refine .inl ⟨?_, fun hrej => ?_⟩
    · rw [(accepted_get? m changes k v).mpr ⟨hk, hr⟩]
      rfl
    · obtain ⟨r, h⟩ := Option.isSome_iff_exists.mp hrej
      obtain ⟨v', hk', hr'⟩ := (rejected_get? m changes k r).mp h
      rw [hk] at hk'
      rw [← Option.some.inj hk', hr] at hr'
      cases hr'
  | some r =>
    refine .inr ⟨?_, fun hacc => ?_⟩
    · rw [(rejected_get? m changes k r).mpr ⟨v, hk, hr⟩]
      rfl
    · obtain ⟨v', h⟩ := Option.isSome_iff_exists.mp hacc
      obtain ⟨hk', hr'⟩ := (accepted_get? m changes k v').mp h
      rw [hk] at hk'
      rw [← Option.some.inj hk', hr] at hr'
      cases hr'

theorem validate_nothing_else (m : Manifest) (changes : Fields) {k : String}
    (hk : changes.get? k = none) :
    (m.validate changes).1.get? k = none ∧ (m.validate changes).2.get? k = none := by
  refine ⟨Option.eq_none_iff_forall_ne_some.mpr fun v hv => ?_,
    Option.eq_none_iff_forall_ne_some.mpr fun r hr => ?_⟩
  · have hk' := ((accepted_get? m changes k v).mp hv).1
    rw [hk] at hk'
    cases hk'
  · obtain ⟨v, hk', -⟩ := (rejected_get? m changes k r).mp hr
    rw [hk] at hk'
    cases hk'

theorem validate_sound_iff (m : Manifest) (changes : Fields) : m.Sound changes ↔
    ∀ k v knob, changes.get? k = some v → m.knobs.get? k = some knob → knob.passes v = true →
      knob.WellTyped v := by
  constructor
  · intro hs k v knob hk hknob hpass
    have hr : m.reject k v = none := reject_eq_none_iff.mpr ⟨knob, hknob, hpass⟩
    obtain ⟨knob', hknob', hw⟩ := hs.wellTyped k v ((accepted_get? m changes k v).mpr ⟨hk, hr⟩)
    rw [hknob] at hknob'
    rwa [Option.some.inj hknob']
  · intro hw
    refine ⟨fun k v => validate_parts m changes, fun k => validate_nothing_else m changes,
      fun k v hv => ((accepted_get? m changes k v).mp hv).1, fun k v hv => ?_⟩
    obtain ⟨hk, hr⟩ := (accepted_get? m changes k v).mp hv
    obtain ⟨knob, hknob, hpass⟩ := reject_eq_none_iff.mp hr
    exact ⟨knob, hknob, hw k v knob hk hknob hpass⟩

/-! ### Values and declarations -/

/-- Some integer is not among the texts. -/
theorem exists_repr_notMem (texts : List String) : ∃ n : Int, n.repr ∉ texts := by
  obtain ⟨text, ⟨n, rfl⟩, hn⟩ :=
    (Set.infinite_range_of_injective repr_injective).exists_notMem_finset texts.toFinset
  exact ⟨n, fun h => hn (List.mem_toFinset.mpr h)⟩

theorem amongChoices_int {knob : Knob} {n : Int} : knob.AmongChoices (.int n) ↔
    knob.choices = [] ∨ n.repr ∈ knob.choices.map lower := by
  have htext : (Json.int n).pyStr = n.repr := rfl
  rw [Knob.AmongChoices, htext, lower_repr]

theorem passes_str {knob : Knob} (hstr : knob.vtype = "str")
    (hclass : knob.klass ∉ [COLD, WARM, DEFERRED]) :
    knob.passes (.str (knob.choices.head?.getD "")) = true := by
  have hchecked : knob.checkStr (.str (knob.choices.head?.getD "")) = none := by
    cases hc : knob.choices <;> simp [Knob.checkStr, hc]
  simp [Knob.passes, hstr, hclass, hchecked]

theorem passes_int {knob : Knob} {n : Int} (hstr : knob.vtype ≠ "str")
    (hclass : knob.klass ∉ [COLD, WARM, DEFERRED]) (hn : ¬knob.Outside n) :
    knob.passes (.int n) = true := by
  rw [Knob.Outside, not_or] at hn
  have hmin : knob.vmin.any (below (.int n)) = false := by
    refine Bool.eq_false_iff.mpr fun h => hn.1 ?_
    simpa [Option.any_eq_true, below, Json.num?] using h
  have hmax : knob.vmax.any (above (.int n)) = false := by
    refine Bool.eq_false_iff.mpr fun h => hn.2 ?_
    simpa [Option.any_eq_true, above, Json.num?] using h
  have hchecked : knob.checkNumber (.int n) = none := by
    simp [Knob.checkNumber, Json.isBool, Json.isInt, Json.num?, hmin, hmax]
  simp [Knob.passes, hstr, hclass, hchecked]

/-- Neither bound stops `NaN`. -/
theorem passes_nan {knob : Knob} (hstr : knob.vtype ≠ "str") (hint : knob.vtype ≠ "int")
    (hclass : knob.klass ∉ [COLD, WARM, DEFERRED]) : knob.passes (.float .nan) = true := by
  have hlt : ∀ x : PyFloat, PyFloat.nan.lt x = false ∧ x.lt .nan = false := fun x => by
    cases x <;> exact ⟨rfl, rfl⟩
  have hbelow : below (.float .nan) = fun _ => false := funext fun b => (hlt b).1
  have habove : above (.float .nan) = fun _ => false := funext fun b => (hlt b).2
  have hchecked : knob.checkNumber (.float .nan) = none := by
    simp [Knob.checkNumber, Json.isBool, Json.num?, hint, hbelow, habove]
  simp [Knob.passes, hstr, hclass, hchecked]

theorem not_outside_of_passes {knob : Knob} {n : Int} (hstr : knob.vtype ≠ "str")
    (h : knob.passes (.int n) = true) : ¬knob.Outside n := by
  obtain ⟨-, -, -, hmin, hmax⟩ := number_of_passes hstr h
  rintro (⟨lo, hlo, hlt⟩ | ⟨hi, hhi, hlt⟩)
  · simp [hlo, below, Json.num?, hlt] at hmin
  · simp [hhi, above, Json.num?, hlt] at hmax

theorem exact_of_tested {knob : Knob} {v : Json} (hot : knob.klass = HOT) (ht : knob.Tested)
    (h : knob.passes v = true) : knob.Exact v := by
  rcases ht with ⟨hstr, hmin, hmax⟩ | ⟨hint, hmin, hmax, hchoices⟩ | ⟨hfloat, hmin, hmax, hchoices⟩
  · exact ⟨hot, fun _ => ⟨hmin, hmax⟩, fun hne => absurd hstr hne, fun hne => absurd hstr hne⟩
  · have hstr : knob.vtype ≠ "str" := by
      rw [hint]
      decide
    obtain ⟨hbool, -, hisInt, -⟩ := number_of_passes hstr h
    obtain ⟨n, rfl⟩ : ∃ n, v = .int n := by
      cases v with
      | int n => exact ⟨n, rfl⟩
      | bool b => cases hbool
      | _ => cases hisInt hint
    have hlisted : knob.AmongChoices (.int n) := amongChoices_int.mpr
      (hchoices.imp_right fun hall => hall n (not_outside_of_passes hstr h))
    refine ⟨hot, fun hs => absurd hs hstr, fun _ => ⟨.inl hint, hlisted⟩, ?_⟩
    rintro - bound (hb | hb)
    · exact ⟨fun hnan => hmin (hnan ▸ hb), nofun⟩
    · exact ⟨fun hnan => hmax (hnan ▸ hb), nofun⟩
  · have hstr : knob.vtype ≠ "str" := by
      rw [hfloat]
      decide
    refine ⟨hot, fun hs => absurd hs hstr, fun _ => ⟨.inr hfloat, .inl hchoices⟩, ?_⟩
    rintro - bound (hb | hb)
    · rw [hmin] at hb
      cases hb
    · rw [hmax] at hb
      cases hb

theorem declared_of_exact {knob : Knob}
    (h : ∀ v, knob.passes v = true → knob.Exact v) : knob.Declared := by
  by_cases hclass : knob.klass ∈ [COLD, WARM, DEFERRED]
  · exact .inl hclass
  by_cases hstr : knob.vtype = "str"
  · have he := h _ (passes_str hstr hclass)
    exact .inr (.inr ⟨he.hot, .inl ⟨hstr, he.str hstr⟩⟩)
  by_cases hint : knob.vtype = "int"
  · by_cases hall : ∀ n, knob.Outside n
    · exact .inr (.inl ⟨hint, hall⟩)
    obtain ⟨n, hn⟩ := not_forall.mp hall
    have he := h _ (passes_int hstr hclass hn)
    refine .inr (.inr ⟨he.hot, .inr (.inl ⟨hint, fun hlo => ?_, fun hhi => ?_, ?_⟩)⟩)
    · exact (he.noNan hstr .nan (.inl hlo)).1 rfl
    · exact (he.noNan hstr .nan (.inr hhi)).1 rfl
    · by_cases hnone : knob.choices = []
      · exact .inl hnone
      · refine .inr fun n hn => ?_
        have hlisted := ((h _ (passes_int hstr hclass hn)).number hstr).2
        exact (amongChoices_int.mp hlisted).resolve_left hnone
  · have he := h _ (passes_nan hstr hint hclass)
    have hmin : knob.vmin = none := Option.eq_none_iff_forall_ne_some.mpr fun lo hlo =>
      (he.noNan hstr lo (.inl hlo)).2 rfl
    have hmax : knob.vmax = none := Option.eq_none_iff_forall_ne_some.mpr fun hi hhi =>
      (he.noNan hstr hi (.inr hhi)).2 rfl
    have hfloat : knob.vtype = "float" := (he.number hstr).1.resolve_left hint
    obtain ⟨n, hn⟩ := exists_repr_notMem (knob.choices.map lower)
    have hinside : ¬knob.Outside n := by simp [Knob.Outside, hmin, hmax]
    have hlisted := ((h _ (passes_int hstr hclass hinside)).number hstr).2
    exact .inr (.inr ⟨he.hot, .inr (.inr
      ⟨hfloat, hmin, hmax, (amongChoices_int.mp hlisted).resolve_right hn⟩)⟩)

/-- What passes is well typed exactly where the declaration leaves the tests nothing to miss. -/
theorem passes_sound_iff (knob : Knob) :
    (∀ v, knob.passes v = true → knob.WellTyped v) ↔ knob.Declared := by
  have hexact : (∀ v, knob.passes v = true → knob.WellTyped v) ↔
      ∀ v, knob.passes v = true → knob.Exact v := forall₂_congr fun _ h => wellTyped_iff_exact h
  refine hexact.trans ⟨declared_of_exact, fun hd v h => ?_⟩
  rcases hd with hclass | ⟨hint, hall⟩ | ⟨hot, ht⟩
  · simp only [Knob.passes, Bool.and_eq_true, Bool.not_eq_true'] at h
    rw [List.contains_iff_mem.mpr hclass] at h
    cases h.1
  · have hstr : knob.vtype ≠ "str" := by
      rw [hint]
      decide
    obtain ⟨hbool, -, hisInt, -⟩ := number_of_passes hstr h
    cases v with
    | int n => exact absurd (hall n) (not_outside_of_passes hstr h)
    | bool b => cases hbool
    | _ => cases hisInt hint
  · exact exact_of_tested hot ht h

theorem sound_iff_declared (m : Manifest) : (∀ changes, m.Sound changes) ↔ m.Declared := by
  constructor
  · intro hs k knob hknob
    refine (passes_sound_iff knob).mp fun v hpass => ?_
    exact (validate_sound_iff m ((∅ : Fields).insert k v)).mp (hs _) k v knob
      (Dict.get?_insert_self _ _ _) hknob hpass
  · intro hd changes
    exact (validate_sound_iff m changes).mpr fun k v knob _ hknob hpass =>
      (passes_sound_iff knob).mpr (hd k knob hknob) v hpass

/-! ### Runs of the loop -/

namespace Sending
open Reconciler
open ReconcilerPending (Event)

variable {σ : Type} {m : Manifest} {setHot : Fields → EStateM PyErr σ ApplyResult}
  {replicaId group : String}

/-- What is new among the requests is what `validate` accepts of some version. -/
def Sends (m : Manifest) (s t : Reconciling (Sending σ)) : Prop :=
  ∀ changes ∈ t.engine.sent, changes ∈ s.engine.sent ∨
    ∃ fields, changes = (m.validate fields).1

theorem sends_of_same {s t : Reconciling (Sending σ)} (h : t.engine.sent = s.engine.sent) :
    Sends m s t := fun _ hc => .inl (h ▸ hc)

theorem sends_trans ⦃s t u : Reconciling (Sending σ)⦄ (hst : Sends m s t) (htu : Sends m t u) :
    Sends m s u := fun changes hc => (htu changes hc).elim (hst changes) .inr

theorem sends_onStore {α : Type} (x : StoreM α) :
    Respects (Sends m) (onStore x : LoopM (Sending σ) α) := by
  intro s
  unfold final
  rw [onStore, zoom_run]
  cases x.run s.store <;> exact sends_of_same rfl

theorem sends_setHot (fields : Fields) : Respects (Sends m)
    (Reconciler.onEngine (logged setHot (m.validate fields).1) : LoopM (Sending σ) _) := by
  intro s changes hc
  have hsent : (final (Reconciler.onEngine (logged setHot (m.validate fields).1)) s).engine.sent =
      s.engine.sent ++ [(m.validate fields).1] := by
    unfold final
    rw [Reconciler.onEngine, zoom_run, logged, EStateM.run_bind, EStateM.run_modify]
    simp only [onEngine, zoom_run]
    cases (setHot (m.validate fields).1).run s.engine.engine <;> rfl
  rw [hsent, List.mem_append, List.mem_singleton] at hc
  exact hc.imp_right fun h => ⟨fields, h⟩

theorem sends_record (applied : Option Int) (state detail : String) :
    Respects (Sends m) (recordOver replicaId group applied state detail : LoopM (Sending σ) _) :=
  sends_onStore _

/-- A tick that ends with a report. -/
theorem sends_report (applied : Option Int) (state detail : String) :
    Respects (Sends m) (do
      recordOver replicaId group applied state detail
      return state : LoopM (Sending σ) String) :=
  respects_bind sends_trans (sends_record applied state detail) fun _ _ => sends_of_same rfl

theorem sends_conclude (d : ConfigVersion) (cold : Dict String String) (result : ApplyResult) :
    Respects (Sends m) (concludeOver replicaId group d cold result : LoopM (Sending σ) _) := by
  unfold concludeOver
  split
  · exact respects_bind sends_trans (fun _ => sends_of_same rfl) fun s => sends_report _ _ _
  · refine respects_bind sends_trans (fun _ => sends_of_same rfl) fun _ => ?_
    split
    · exact sends_report _ _ _
    · exact sends_report _ _ _

theorem sends_converge (d : ConfigVersion) :
    Respects (Sends m) (convergeOver m (logged setHot) replicaId group d) := by
  unfold convergeOver
  refine respects_bind sends_trans (fun _ => sends_of_same rfl) fun s => ?_
  dsimp only
  split
  · exact sends_report _ _ _
  · refine respects_bind sends_trans (sends_record _ _ _) fun _ => ?_
    split
    · exact respects_bind sends_trans (fun _ => sends_of_same rfl) fun _ => sends_conclude d _ _
    · exact respects_bind sends_trans (sends_setHot d.fields) fun _ => sends_conclude d _ _

theorem sends_tick : Respects (Sends m) (tickOver m (logged setHot) replicaId group) := by
  refine respects_bind sends_trans (sends_onStore _) fun desired => ?_
  refine respects_bind sends_trans (fun _ => sends_of_same rfl) fun s => ?_
  cases desired with
  | none => exact sends_report _ _ _
  | some d =>
    dsimp only
    split
    · exact sends_report _ _ _
    · exact sends_converge d

/-- Through a run, by a reflexive and transitive relation that every step keeps. -/
theorem sends_run (s : Reconciling (Sending σ)) (es : List (Event σ)) :
    Sends m s (run (step m setHot replicaId group) s es) := by
  refine run_relates (fun _ => sends_of_same rfl) sends_trans (fun s e => ?_) s es
  cases e with
  | plane op => exact sends_of_same rfl
  | engine after => exact sends_of_same rfl
  | tick => exact sends_tick s

end Sending

theorem guards_iff_declared (m : Manifest) : m.Guards ↔ m.Declared := by
  constructor
  · exact fun hg => (sound_iff_declared m).mp hg.sound
  · intro hd
    have hsound := (sound_iff_declared m).mpr hd
    refine ⟨hsound, fun σ setHot replicaId group store applied engine es changes hc => ?_⟩
    obtain hstart | ⟨fields, rfl⟩ := Sending.sends_run _ es changes hc
    · cases hstart
    · exact (hsound fields).wellTyped

/-- Of every manifest that a text loads as. -/
theorem loaded_sound_iff (text : List Char) :
    (∀ m, ManifestText.load text = .ok m → m.Guards) ↔
      ∀ m, ManifestText.load text = .ok m → m.Declared :=
  forall₂_congr fun m _ => guards_iff_declared m

/-! ### A misspelt class -/

def misspelt : List Char :=
  "engine: vllm
engine_commit: c0adee9
knobs:
  - field: tensor_parallel_size
    klass: Cold
".toList

def misspeltKnob : Knob := { field := "tensor_parallel_size", klass := "Cold" }

theorem load_misspelt :
    ManifestText.load misspelt = .ok (Manifest.ofKnobs "vllm" "c0adee9" [misspeltKnob]) := by
  unfold misspelt
  rw [toList_literal rfl]
  rfl

/-- The knob is cold to its author and hot to `validate`. -/
theorem misspelt_accepted : ¬∀ m, ManifestText.load misspelt = .ok m → m.Guards := by
  intro h
  have hsound := (h _ load_misspelt).sound ((∅ : Fields).insert "tensor_parallel_size" (.int 2))
  rw [validate_sound_iff] at hsound
  have hknob : (Manifest.ofKnobs "vllm" "c0adee9" [misspeltKnob]).knobs.get? "tensor_parallel_size" =
      some misspeltKnob := by rfl
  have hot := (hsound _ _ _ (Dict.get?_insert_self _ _ _) hknob (by decide +kernel)).hot
  exact absurd hot (by decide)

end Trimtab
