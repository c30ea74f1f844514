import Trimtab.Dict
import Trimtab.PyValues

set_option autoImplicit false

/-! The registry that classifies every engine parameter, and the boundary check. -/
namespace Trimtab
open PyText

abbrev Fields := Dict String Json

/-- What `json.loads` reads back from `json.dumps(fields, sort_keys=True)`. -/
def Fields.stored (fields : Fields) : Fields :=
  (fields.filterMap fun _ v => some v.sortKeys).sortKeys

abbrev HOT := "hot"
abbrev COLD := "cold"
abbrev WARM := "warm"
abbrev DEFERRED := "deferred"

structure Knob where
  field : String
  klass : String
  vmin : Option PyFloat := none
  vmax : Option PyFloat := none
  maxSource : Option String := none
  vtype : String := "int"
  choices : List String := []
  deriving DecidableEq

structure Manifest where
  engine : String
  engineCommit : String
  knobs : Dict String Knob

def Manifest.ofKnobs (engine engineCommit : String) (knobs : List Knob) : Manifest :=
  ⟨engine, engineCommit, Dict.ofList (knobs.map fun k => (k.field, k))⟩

/-- `v < bound` on a value that `isinstance` has found to be a number. -/
def below (v : Json) (bound : PyFloat) : Bool :=
  match v.num? with
  | some x => x.lt bound
  | none => false

def above (v : Json) (bound : PyFloat) : Bool :=
  match v.num? with
  | some x => bound.lt x
  | none => false

def Knob.checkStr (knob : Knob) : Json → Option String
  | .str s =>
    if !knob.choices.isEmpty && !((knob.choices.map lower).contains (lower s)) then
      some ("must be one of " ++ join ", " knob.choices)
    else none
  | _ => some "must be a string"

def Knob.checkNumber (knob : Knob) (v : Json) : Option String :=
  if v.isBool || !(if knob.vtype = "int" then v.isInt else v.num?.isSome) then
    some ("must be " ++ if knob.vtype = "int" then "an integer" else "a number")
  else if knob.vmin.any (below v) then
    some ("below minimum " ++ reprNum (knob.vmin.getD .nan))
  else if knob.vmax.any (above v) then
    some ("above maximum " ++ reprNum (knob.vmax.getD .nan))
  else none

/-- What `validate` finds wrong with `k = v`, in the order of its branches. -/
def Manifest.reject (m : Manifest) (k : String) (v : Json) : Option String :=
  match m.knobs.get? k with
  | none => some "not in manifest"
  | some knob =>
    if knob.klass = COLD then some "cold knob, needs a relaunch"
    else if knob.klass = WARM then some "warm knob, needs an in-place reinit"
    else if knob.klass = DEFERRED then some "not hot in this engine version"
    else if knob.vtype = "str" then knob.checkStr v
    else knob.checkNumber v

def Manifest.validate (m : Manifest) (changes : Fields) : Fields × Dict String String :=
  (changes.filter fun k v => (m.reject k v).isNone, changes.filterMap m.reject)

/-- A class that needs more than a hot change: the supervisor's test in `split`. -/
def Manifest.coldOrWarm (m : Manifest) (k : String) : Bool :=
  match m.knobs.get? k with
  | some knob => knob.klass = COLD || knob.klass = WARM
  | none => false

def Manifest.Admits (m : Manifest) (changes : Fields) : Prop :=
  ∀ k v, changes.get? k = some v → m.reject k v = none

theorem accepted_get? (m : Manifest) (changes : Fields) (k : String) (v : Json) :
    (m.validate changes).1.get? k = some v ↔ changes.get? k = some v ∧ m.reject k v = none := by
  simp [Manifest.validate, Dict.get?_filter, Option.filter_eq_some_iff]

theorem rejected_get? (m : Manifest) (changes : Fields) (k r : String) :
    (m.validate changes).2.get? k = some r ↔ ∃ v, changes.get? k = some v ∧ m.reject k v = some r := by
  simp [Manifest.validate, Dict.get?_filterMap, Option.bind_eq_some_iff]

theorem validate_admits (m : Manifest) (changes : Fields) : m.Admits (m.validate changes).1 :=
  fun k v h => ((accepted_get? m changes k v).mp h).2

theorem validate_of_admits {m : Manifest} {changes : Fields} (h : m.Admits changes) :
    m.validate changes = (changes, ∅) := by
  have hkept : (changes.filter fun k v => (m.reject k v).isNone) = changes :=
    Dict.filter_eq_self fun k v hk => by
      rw [h k v hk]
      rfl
  have hrejected : changes.filterMap m.reject = ∅ := by
    refine Dict.eq_empty fun k => ?_
    rw [Dict.get?_filterMap]
    cases hk : changes.get? k with
    | none => rfl
    | some v => exact h k v hk
  rw [Manifest.validate, hkept, hrejected]

theorem reject_eq_none {m : Manifest} {k : String} {v : Json} (h : m.reject k v = none) :
    ∃ knob, m.knobs.get? k = some knob ∧
      (if knob.vtype = "str" then knob.checkStr v else knob.checkNumber v) = none := by
  unfold Manifest.reject at h
  cases hk : m.knobs.get? k with
  | none => simp [hk] at h
  | some knob =>
    simp only [hk] at h
    split_ifs at h with hcold hwarm hdef hstr
    · exact ⟨knob, rfl, by rw [if_pos hstr, h]⟩
    · exact ⟨knob, rfl, by rw [if_neg hstr, h]⟩

theorem checkNumber_eq_none {knob : Knob} {v : Json} (h : knob.checkNumber v = none) :
    v.isBool = false ∧ (if knob.vtype = "int" then v.isInt else v.num?.isSome) = true ∧
      knob.vmin.any (below v) = false := by
  unfold Knob.checkNumber at h
  by_cases htype : (v.isBool || !(if knob.vtype = "int" then v.isInt else v.num?.isSome)) = true
  · rw [if_pos htype] at h
    cases h
  rw [if_neg htype] at h
  by_cases hmin : knob.vmin.any (below v) = true
  · rw [if_pos hmin] at h
    cases h
  rw [Bool.or_eq_true, not_or, Bool.not_eq_true, Bool.not_eq_true', Bool.not_eq_false] at htype
  exact ⟨htype.1, htype.2, Bool.eq_false_iff.mpr hmin⟩

/-- No field may be `null`. -/
theorem ne_null_of_admitted {m : Manifest} {k : String} {v : Json} (h : m.reject k v = none) :
    v ≠ .null := by
  rintro rfl
  obtain ⟨knob, -, hcheck⟩ := reject_eq_none h
  split_ifs at hcheck
  · cases hcheck
  · have hnum := (checkNumber_eq_none hcheck).2.1
    simp [Json.isInt, Json.num?] at hnum

theorem coldOrWarm_iff {m : Manifest} {k : String} : m.coldOrWarm k = true ↔
    ∃ knob, m.knobs.get? k = some knob ∧ (knob.klass = COLD ∨ knob.klass = WARM) := by
  unfold Manifest.coldOrWarm
  cases m.knobs.get? k <;> simp

theorem reject_of_coldOrWarm {m : Manifest} {k : String} (h : m.coldOrWarm k = true) (v : Json) :
    m.reject k v = some "cold knob, needs a relaunch" ∨
      m.reject k v = some "warm knob, needs an in-place reinit" := by
  obtain ⟨knob, hk, hc | hw⟩ := coldOrWarm_iff.mp h
  · exact .inl (by simp only [Manifest.reject, hk, hc, if_true])
  · have hne : WARM ≠ COLD := by decide
    exact .inr (by simp only [Manifest.reject, hk, hw, hne, if_true, if_false])

/-- No choice of a string knob reads like a class name in the text of a refusal. -/
def Manifest.PlainChoices (m : Manifest) : Prop :=
  ∀ k knob, m.knobs.get? k = some knob →
    isIn "cold" ("must be one of " ++ join ", " knob.choices) = false ∧
      isIn "warm" ("must be one of " ++ join ", " knob.choices) = false

/-- A number adds neither a `c` nor an `r` to the text of a refusal. -/
theorem bound_text_plain {text : String} (hc : 'c' ∉ text.toList) (hr : 'r' ∉ text.toList)
    (x : PyFloat) :
    isIn "cold" (text ++ reprNum x) = false ∧ isIn "warm" (text ++ reprNum x) = false := by
  have hfree : ∀ c, c ∉ text.toList → numeric c = false → c ∉ (text ++ reprNum x).toList := by
    intro c htext hnum hmem
    rw [String.toList_append, List.mem_append] at hmem
    rcases hmem with hmem | hmem
    · exact htext hmem
    · rw [numeric_reprNum hmem] at hnum
      cases hnum
  exact ⟨isIn_eq_false (c := 'c') (by decide) (hfree 'c' hc (by decide)),
    isIn_eq_false (c := 'r') (by decide) (hfree 'r' hr (by decide))⟩

/-- A field of another class is refused in words that speak of neither class, so the
reconciler, which sorts refusals by their text, takes it for a bad value. -/
theorem reject_plain {m : Manifest} (hm : m.PlainChoices) {k r : String} {v : Json}
    (hk : m.coldOrWarm k = false) (h : m.reject k v = some r) :
    isIn "cold" r = false ∧ isIn "warm" r = false := by
  unfold Manifest.reject at h
  cases hg : m.knobs.get? k with
  | none =>
    rw [hg] at h
    cases h
    decide
  | some knob =>
    have hcw : ¬(knob.klass = COLD ∨ knob.klass = WARM) := fun hc => by
      rw [coldOrWarm_iff.mpr ⟨knob, hg, hc⟩] at hk
      cases hk
    rw [not_or] at hcw
    simp only [hg, hcw.1, hcw.2, if_false] at h
    split_ifs at h
    · cases h
      decide
    · unfold Knob.checkStr at h
      split at h
      · split_ifs at h
        cases h
        exact hm k knob hg
      · cases h
        decide
    · unfold Knob.checkNumber at h
      split_ifs at h <;> cases h
      · decide
      · exact bound_text_plain (by decide) (by decide) _
      · exact bound_text_plain (by decide) (by decide) _
      · decide
      · exact bound_text_plain (by decide) (by decide) _
      · exact bound_text_plain (by decide) (by decide) _

end Trimtab
