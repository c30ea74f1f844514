import Trimtab.ExpositionLines

set_option autoImplicit false

/-!
# The bound of a bucket line as `parse` finds it

The search for `le="` looks at characters, not at labels: it stops at the first place that
reads so, be it in a longer name or across the end of a value.
-/
namespace Trimtab.Exposition
open MetricsText PyText

def endsInLe (cs : List Char) : Bool := "le=".toList.isSuffixOf cs

/-- What the search takes for the label `le`: a name that ends so, written together with its
value. -/
def Label.endsInLe (l : Label) : Bool :=
  "le".toList.isSuffixOf l.name.1 && l.beforeEq.isEmpty && l.afterEq.isEmpty

/-- The first label that the search takes for `le`, and no value before it that ends in `le=`,
gives it the text `le`. -/
def Takes (le : List Char) : List Label → Prop
  | [] => False
  | l :: ls =>
    if l.endsInLe && !l.value.isEmpty then escape l.value = le
    else Exposition.endsInLe (escape l.value) = false ∧ Takes le ls

instance decidableTakes (le : List Char) : (ls : List Label) → Decidable (Takes le ls)
  | [] => inferInstanceAs (Decidable False)
  | l :: ls =>
    have := decidableTakes le ls
    inferInstanceAs (Decidable (if l.endsInLe && !l.value.isEmpty then escape l.value = le
      else Exposition.endsInLe (escape l.value) = false ∧ Takes le ls))

end Trimtab.Exposition
