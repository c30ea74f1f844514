import Trimtab.PyValues

set_option autoImplicit false

/-! `int` and `float` of any value, a text included. -/
namespace PyText
open PyUnicode (digit? digit?_of_isDigit)

def isSpace (c : Char) : Bool :=
  let n := c.toNat
  decide (9 ≤ n ∧ n ≤ 13) || decide (28 ≤ n ∧ n ≤ 32) || decide (0x2000 ≤ n ∧ n ≤ 0x200a) ||
    [0x85, 0xa0, 0x1680, 0x2028, 0x2029, 0x202f, 0x205f, 0x3000].contains n

def strip (cs : List Char) : List Char :=
  ((cs.dropWhile isSpace).reverse.dropWhile isSpace).reverse

/-- Digits, with at most one underscore between two of them. -/
def digitPart : List Char → Option (List Nat)
  | [] => none
  | [c] => (digit? c).map ([·])
  | c :: '_' :: cs => do return (← digit? c) :: (← digitPart cs)
  | c :: cs => do return (← digit? c) :: (← digitPart cs)

def ofDigits (ds : List Nat) : Nat := ds.foldl (fun n d => 10 * n + d) 0

def signed : List Char → Bool × List Char
  | '-' :: cs => (true, cs)
  | '+' :: cs => (false, cs)
  | cs => (false, cs)

def integer (cs : List Char) : Option Int := do
  let (negative, cs) := signed cs
  let n := ofDigits (← digitPart cs)
  return if negative then -n else n

def cut (sep : Char) (cs : List Char) : List Char × Option (List Char) :=
  (cs.takeWhile (· ≠ sep), (cs.dropWhile (· ≠ sep)).tail?)

/-- A number in lower case and without a sign, as the nearest float. -/
def decimal (cs : List Char) : Option PyFloat :=
  if cs = "inf".toList ∨ cs = "infinity".toList then some (.inf false)
  else if cs = "nan".toList then some .nan
  else do
    let (mantissa, exponent) := cut 'e' cs
    let (whole, fraction) := cut '.' mantissa
    let fraction := fraction.getD []
    if whole = [] ∧ fraction = [] then none
    let whole ← if whole = [] then some [] else digitPart whole
    let fraction ← if fraction = [] then some [] else digitPart fraction
    let shift := (← (exponent.map integer).getD (some 0)) - fraction.length
    let n : Nat := ofDigits (whole ++ fraction) * 10 ^ shift.toNat
    return .nearest (mkRat n (10 ^ (-shift).toNat))

def negate : PyFloat → PyFloat
  | .fin q => .fin (-q)
  | .inf negative => .inf !negative
  | .nan => .nan

def maxDigits : Nat := 4300

/-- `int(text)` -/
def textToInt (text : String) : Except PyErr Int :=
  let digits := (text.toList.filter fun c => (digit? c).isSome).length
  if maxDigits < digits then
    .error (.valueError ("Exceeds the limit (" ++ toString maxDigits ++
      " digits) for integer string conversion: value has " ++ toString digits ++
      " digits; use sys.set_int_max_str_digits() to increase the limit"))
  else match integer (strip text.toList) with
    | some n => .ok n
    | none => .error (.valueError ("invalid literal for int() with base 10: " ++ pyRepr text))

/-- `float(text)`: only in ASCII is a letter of it read in either case. -/
def textToFloat (text : String) : Except PyErr PyFloat :=
  let (negative, cs) := signed ((strip text.toList).map Char.toLower)
  match decimal cs with
  | some x => .ok (if negative then negate x else x)
  | none => .error (.valueError ("could not convert string to float: " ++ pyRepr text))

/-! ### `int(str(n))` -/

theorem isSpace_of_isDigit {c : Char} (h : c.isDigit = true) : isSpace c = false := by
  have hn : 48 ≤ c.toNat ∧ c.toNat ≤ 57 := Char.isDigit_iff_toNat.mp h
  simp only [isSpace, Bool.or_eq_false_iff, decide_eq_false_iff_not, List.contains_eq_mem,
    List.mem_cons, List.not_mem_nil, or_false]
  omega

theorem strip_eq_self {cs : List Char} (h : ∀ c ∈ cs, isSpace c = false) : strip cs = cs := by
  have hdrop : ∀ cs : List Char, (∀ c ∈ cs, isSpace c = false) → cs.dropWhile isSpace = cs := by
    intro cs hcs
    cases cs with
    | nil => rfl
    | cons c cs => rw [List.dropWhile_cons, if_neg (by simp [hcs c List.mem_cons_self])]
  rw [strip, hdrop cs h, hdrop _ fun c hc => h c (List.mem_reverse.mp hc), List.reverse_reverse]

theorem digitPart_digits {c : Char} {cs : List Char} (h : ∀ d ∈ c :: cs, d.isDigit = true) :
    digitPart (c :: cs) = some ((c :: cs).map fun d => d.toNat - 48) := by
  induction cs generalizing c with
  | nil => simp [digitPart, digit?_of_isDigit (h c List.mem_cons_self)]
  | cons d cs ih =>
    have hd : d.isDigit = true := h d (by simp)
    have hplain : d ≠ '_' := by
      rintro rfl
      cases hd
    rw [digitPart, ih fun e he => h e (List.mem_cons_of_mem c he)]
    · simp [digit?_of_isDigit (h c List.mem_cons_self)]
    · exact List.cons_ne_nil _ _
    · rintro cs' heq
      cases heq
      exact hplain rfl

theorem digitPart_toDigits (n : Nat) : digitPart (Nat.toDigits 10 n) = some
    ((Nat.toDigits 10 n).map fun d => d.toNat - 48) := by
  have hdigits : ∀ c ∈ Nat.toDigits 10 n, c.isDigit = true := fun c hc =>
    Nat.isDigit_of_mem_toDigits (by decide) (by decide) hc
  cases hcs : Nat.toDigits 10 n with
  | nil => exact absurd hcs Nat.toDigits_ne_nil
  | cons c cs => exact digitPart_digits (hcs ▸ hdigits)

theorem ofDigits_toDigits (n : Nat) :
    ofDigits ((Nat.toDigits 10 n).map fun d => d.toNat - 48) = n := by
  rw [ofDigits, List.foldl_map]
  exact Nat.ofDigitChars_ten_toDigits

theorem integer_toDigits (n : Nat) : integer (Nat.toDigits 10 n) = some n := by
  have hsigned : signed (Nat.toDigits 10 n) = (false, Nat.toDigits 10 n) := by
    have hdigits : ∀ c ∈ Nat.toDigits 10 n, c.isDigit = true := fun c hc =>
      Nat.isDigit_of_mem_toDigits (by decide) (by decide) hc
    unfold signed
    split
    · rename_i cs hcs
      cases hdigits '-' (by simp [hcs])
    · rename_i cs hcs
      cases hdigits '+' (by simp [hcs])
    · rfl
  simp [integer, hsigned, digitPart_toDigits, ofDigits_toDigits]

theorem toList_repr_negSucc (m : Nat) :
    (Int.negSucc m).repr.toList = '-' :: Nat.toDigits 10 (m + 1) := by
  simp [Int.repr, String.toList_append, Nat.toList_repr]

theorem integer_repr (n : Int) : integer (strip n.repr.toList) = some n := by
  have hspace : ∀ m : Nat, ∀ c ∈ Nat.toDigits 10 m, isSpace c = false := fun m c hc =>
    isSpace_of_isDigit (Nat.isDigit_of_mem_toDigits (by decide) (by decide) hc)
  cases n with
  | ofNat m =>
    have hlist : (Int.ofNat m).repr.toList = Nat.toDigits 10 m := Nat.toList_repr
    rw [hlist, strip_eq_self (hspace m), integer_toDigits]
    rfl
  | negSucc m =>
    have hstrip : strip ('-' :: Nat.toDigits 10 (m + 1)) = '-' :: Nat.toDigits 10 (m + 1) :=
      strip_eq_self (List.forall_mem_cons.mpr ⟨by decide, hspace (m + 1)⟩)
    rw [toList_repr_negSucc, hstrip]
    simp [integer, signed, digitPart_toDigits, ofDigits_toDigits, Int.negSucc_eq]

theorem repr_injective : Function.Injective Int.repr := fun a b h => by
  have hb := integer_repr a
  rw [h, integer_repr b] at hb
  exact (Option.some.inj hb).symm

/-- A numeral has no capital letters. -/
theorem lower_repr (n : Int) : lower n.repr = n.repr := by
  have hdigit : ∀ m : Nat, ∀ c ∈ Nat.toDigits 10 m, c.toNat < 65 := fun m c hc => by
    have hn : 48 ≤ c.toNat ∧ c.toNat ≤ 57 := Char.isDigit_iff_toNat.mp
      (Nat.isDigit_of_mem_toDigits (by decide) (by decide) hc)
    omega
  have hsmall : ∀ c ∈ n.repr.toList, c.toNat < 65 := by
    cases n with
    | ofNat m =>
      have hlist : (Int.ofNat m).repr.toList = Nat.toDigits 10 m := Nat.toList_repr
      exact hlist ▸ hdigit m
    | negSucc m =>
      rw [toList_repr_negSucc]
      exact List.forall_mem_cons.mpr ⟨by decide, hdigit (m + 1)⟩
  rw [lower, PyUnicode.lower, PyUnicode.lowerAfter_eq_self hsmall, String.ofList_toList]

theorem textToInt_repr {n : Int} (h : n.repr.toList.length ≤ maxDigits) :
    textToInt n.repr = .ok n := by
  have hdigits := (List.length_filter_le (fun c => (digit? c).isSome) n.repr.toList).trans h
  rw [textToInt, if_neg (Nat.not_lt.mpr hdigits), integer_repr]

end PyText

namespace Json
open PyText

def asInt : Json → Except PyErr Int
  | .bool b => .ok (if b then 1 else 0)
  | .int n => .ok n
  | .float x => x.toInt
  | .str s => textToInt s
  | v => .error (.typeError ("int() argument must be a string, a bytes-like object or a real " ++
      "number, not " ++ pyRepr v.typeName))

def asFloat : Json → Except PyErr PyFloat
  | .str s => textToFloat s
  | v => v.toFloat

example : (Json.str " -1_0.5E1 ").asFloat = .ok (.fin (-105)) := by decide +kernel

example : (Json.str "٣").asInt = .ok 3 := by decide +kernel

end Json
