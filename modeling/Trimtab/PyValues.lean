import Mathlib.Algebra.Order.Ring.Unbundled.Rat
import Mathlib.Data.Rat.Defs
import Mathlib.Data.List.Sort
import Mathlib.Data.Nat.Log
import Trimtab.PyUnicode

set_option autoImplicit false

/-!
# JSON values as Python holds them

`json.loads` gives booleans, exact integers, floats, strings, lists and dicts; a float may
be an infinity or `NaN`, which Python's reader accepts. Booleans are numbers to
`isinstance` and to `==`.
-/

inductive PyErr where
  | keyError (msg : String)
  | valueError (msg : String)
  | typeError (msg : String)
  | overflowError (msg : String)
  | runtimeError (msg : String)
  | attributeError (msg : String)
  | osError (msg : String)
  | zeroDivisionError (msg : String)
  | memoryError (msg : String)
  deriving DecidableEq

def PyErr.typeName : PyErr → String
  | .keyError _ => "KeyError"
  | .valueError _ => "ValueError"
  | .typeError _ => "TypeError"
  | .overflowError _ => "OverflowError"
  | .runtimeError _ => "RuntimeError"
  | .attributeError _ => "AttributeError"
  | .osError _ => "OSError"
  | .zeroDivisionError _ => "ZeroDivisionError"
  | .memoryError _ => "MemoryError"

/-- A finite float is the number it stands for; a zero has no sign. -/
inductive PyFloat where
  | fin (q : Rat)
  | inf (neg : Bool)
  | nan
  deriving DecidableEq

inductive Json where
  | null
  | bool (b : Bool)
  | int (n : Int)
  | float (x : PyFloat)
  | str (s : String)
  | list (xs : List Json)
  | dict (kvs : List (String × Json))

instance : Inhabited Json := ⟨.null⟩

namespace Json

/-! ## Structural equality -/

mutual

def beq : Json → Json → Bool
  | .null, .null => true
  | .bool a, .bool b => a == b
  | .int a, .int b => a == b
  | .float a, .float b => decide (a = b)
  | .str a, .str b => decide (a = b)
  | .list xs, .list ys => beqList xs ys
  | .dict xs, .dict ys => beqMembers xs ys
  | _, _ => false

def beqList : List Json → List Json → Bool
  | [], [] => true
  | x :: xs, y :: ys => beq x y && beqList xs ys
  | _, _ => false

def beqMembers : List (String × Json) → List (String × Json) → Bool
  | [], [] => true
  | (j, x) :: xs, (k, y) :: ys => decide (j = k) && beq x y && beqMembers xs ys
  | _, _ => false

end

mutual

theorem beq_iff (a b : Json) : beq a b = true ↔ a = b := by
  cases a with
  | list xs => cases b <;> simp [beq, beqList_iff xs]
  | dict xs => cases b <;> simp [beq, beqMembers_iff xs]
  | _ => cases b <;> simp [beq]

theorem beqList_iff (xs ys : List Json) : beqList xs ys = true ↔ xs = ys := by
  cases xs with
  | nil => cases ys <;> simp [beqList]
  | cons x xs => cases ys <;> simp [beqList, beq_iff x, beqList_iff xs]

theorem beqMembers_iff (xs ys : List (String × Json)) : beqMembers xs ys = true ↔ xs = ys := by
  match xs with
  | [] => cases ys <;> simp [beqMembers]
  | (j, x) :: xs => cases ys <;> simp [beqMembers, beq_iff x, beqMembers_iff xs, Prod.ext_iff]

end

instance : DecidableEq Json := fun a b => decidable_of_iff _ (beq_iff a b)

/-! ## The round trip through `json.dumps(v, sort_keys=True)` -/

mutual

def sortKeys : Json → Json
  | .list xs => .list (sortKeysItems xs)
  | .dict kvs => .dict ((sortKeysMembers kvs).insertionSort fun p q => p.1 ≤ q.1)
  | v => v

def sortKeysItems : List Json → List Json
  | [] => []
  | x :: xs => sortKeys x :: sortKeysItems xs

def sortKeysMembers : List (String × Json) → List (String × Json)
  | [] => []
  | (k, x) :: xs => (k, sortKeys x) :: sortKeysMembers xs

end

/-! ## Python's `==` -/

mutual

/-- `True`, `1` and `1.0` are one number, and a dict has no order. -/
def canon : Json → Json
  | .bool b => .float (.fin (if b then 1 else 0))
  | .int n => .float (.fin n)
  | .list xs => .list (canonList xs)
  | .dict kvs => .dict ((canonMembers kvs).insertionSort fun p q => p.1 ≤ q.1)
  | v => v

def canonList : List Json → List Json
  | [] => []
  | x :: xs => canon x :: canonList xs

def canonMembers : List (String × Json) → List (String × Json)
  | [] => []
  | (k, x) :: xs => (k, canon x) :: canonMembers xs

end

/-- `==` between members of two dicts or lists, which compares identities first: the reader
of JSON has one `NaN` object. -/
def same (a b : Json) : Bool := decide (canon a = canon b)

theorem same_iff {a b : Json} : same a b = true ↔ canon a = canon b := by simp [same]

/-- `a == b`, where `NaN` is not itself. -/
def pyEq (a b : Json) : Bool := same a b && decide (a ≠ .float .nan)

theorem same_of_pyEq {a b : Json} (h : pyEq a b = true) : same a b = true := by
  simp only [pyEq, Bool.and_eq_true] at h
  exact h.1

theorem eq_null_of_pyEq {v : Json} (h : pyEq .null v = true) : v = .null := by
  have hc : canon .null = canon v := same_iff.mp (same_of_pyEq h)
  cases v with
  | null => rfl
  | _ => cases hc

/-! ## Numbers -/

/-- The number a value is to `isinstance(v, (int, float))` and to `<`. -/
def num? : Json → Option PyFloat
  | .bool b => some (.fin (if b then 1 else 0))
  | .int n => some (.fin n)
  | .float x => some x
  | _ => none

def isBool : Json → Bool
  | .bool _ => true
  | _ => false

/-- `isinstance(v, int)`: a boolean is one. -/
def isInt : Json → Bool
  | .bool _ | .int _ => true
  | _ => false

def typeName : Json → String
  | .null => "NoneType"
  | .bool _ => "bool"
  | .int _ => "int"
  | .float _ => "float"
  | .str _ => "str"
  | .list _ => "list"
  | .dict _ => "dict"

end Json

namespace PyFloat

def lt : PyFloat → PyFloat → Bool
  | .fin a, .fin b => decide (a < b)
  | .fin _, .inf neg => !neg
  | .inf neg, .fin _ => neg
  | .inf a, .inf b => a && !b
  | _, _ => false

def atMost (a b : PyFloat) : Bool := a.lt b || (decide (a = b) && decide (a ≠ .nan))

theorem atMost_iff {a b : PyFloat} :
    a.atMost b = true ↔ b.lt a = false ∧ a ≠ .nan ∧ b ≠ .nan := by
  cases a with
  | nan => cases b <;> simp [atMost, lt]
  | inf neg =>
    cases b with
    | nan => cases neg <;> simp [atMost, lt]
    | inf neg' => cases neg <;> cases neg' <;> simp [atMost, lt]
    | fin q => cases neg <;> simp [atMost, lt]
  | fin p =>
    cases b with
    | nan => simp [atMost, lt]
    | inf neg => cases neg <;> simp [atMost, lt]
    | fin q =>
      simp only [atMost, lt, Bool.or_eq_true, decide_eq_true_eq, Bool.and_eq_true, fin.injEq,
        decide_eq_false_iff_not, not_lt, ne_eq, reduceCtorEq, not_false_eq_true, and_true]
      exact (le_iff_lt_or_eq (a := p)).symm

/-- `int(x)`, which rounds towards zero. -/
def toInt : PyFloat → Except PyErr Int
  | .fin q => .ok (q.num.tdiv q.den)
  | .inf _ => .error (.overflowError "cannot convert float infinity to integer")
  | .nan => .error (.valueError "cannot convert float NaN to integer")

theorem toInt_intCast (n : Int) : toInt (.fin n) = .ok n := by
  simp [toInt]

def nonpos : PyFloat → Bool
  | .fin q => decide (q ≤ 0)
  | .inf neg => neg
  | .nan => false

def scale (c : Rat) : PyFloat → PyFloat
  | .fin q => .fin (c * q)
  | x => x

def capOne : PyFloat → PyFloat
  | .fin q => .fin (if 1 < q then 1 else q)
  | .inf neg => if neg then .inf neg else .fin 1
  | .nan => .nan

def sub : PyFloat → PyFloat → PyFloat
  | .fin a, .fin b => .fin (a - b)
  | .inf a, .inf b => if a = b then .nan else .inf a
  | .inf a, .fin _ => .inf a
  | .fin _, .inf b => .inf !b
  | _, _ => .nan

end PyFloat

/-! ## Rounding -/

/-- `n / d` rounded to an integer, a half to the even neighbour. -/
def PyText.roundHalfEven (n d : Nat) : Nat :=
  let twice := 2 * (n % d)
  if twice < d ∨ (twice = d ∧ n / d % 2 = 0) then n / d else n / d + 1

namespace PyFloat
open PyText

/-- The `e` with `2 ^ e ≤ n / d < 2 ^ (e + 1)`. -/
def binaryExponent (n d : Nat) : Int :=
  if d ≤ n then (Nat.log2 (n / d) : Int)
  else
    let j := Nat.log2 (d / n)
    if n * 2 ^ j = d then -(j : Int) else -(j : Int) - 1

/-- What is this large rounds to an infinity: half a step above the largest double. -/
def overflow : Nat := 2 ^ 1024 - 2 ^ 970

/-- The double nearest to a number, a half to the one whose last bit is zero. -/
def nearest (q : Rat) : PyFloat :=
  let n := q.num.natAbs
  if overflow * q.den ≤ n then .inf (decide (q < 0))
  else
    -- a significand has 53 bits, and no double is finer than the smallest subnormal
    let e := max (binaryExponent n q.den - 52) (-1074)
    let m := roundHalfEven (n * 2 ^ (-e).toNat) (q.den * 2 ^ e.toNat)
    .fin (mkRat (q.num.sign * (m * 2 ^ e.toNat : Nat)) (2 ^ (-e).toNat))

/-- `c * x` in doubles, for a positive `c` -/
def times (c : Rat) : PyFloat → PyFloat
  | .fin q => nearest (c * q)
  | x => x

theorem nearest_finite_iff {q : Rat} :
    (∃ r, nearest q = .fin r) ↔ q.num.natAbs < overflow * q.den := by
  unfold nearest
  by_cases h : overflow * q.den ≤ q.num.natAbs
  · simp [h]
  · simp [h, Nat.lt_of_not_le h]

example : nearest 9007199254740993 = .fin 9007199254740992 := by decide +kernel

end PyFloat

/-! ## Text -/

namespace PyText

def upper (s : String) : String := String.ofList (PyUnicode.upper s.toList)

def lower (s : String) : String := String.ofList (PyUnicode.lower s.toList)

def occursIn (needle : List Char) : List Char → Bool
  | [] => needle.isEmpty
  | c :: cs => needle.isPrefixOf (c :: cs) || occursIn needle cs

def isIn (needle text : String) : Bool := occursIn needle.toList text.toList

theorem occursIn_eq_false {needle text : List Char} {c : Char} (hn : c ∈ needle)
    (ht : c ∉ text) : occursIn needle text = false := by
  induction text with
  | nil =>
    cases needle with
    | nil => cases hn
    | cons d ds => rfl
  | cons d ds ih =>
    rw [List.mem_cons, not_or] at ht
    have hp : needle.isPrefixOf (d :: ds) = false := by
      rw [Bool.eq_false_iff, ne_eq, List.isPrefixOf_iff_prefix]
      intro h
      rcases List.mem_cons.mp (h.subset hn) with he | hm
      · exact ht.1 he
      · exact ht.2 hm
    rw [occursIn, hp, ih ht.2]
    rfl

theorem isIn_eq_false {needle text : String} {c : Char} (hn : c ∈ needle.toList)
    (ht : c ∉ text.toList) : isIn needle text = false := occursIn_eq_false hn ht

def join (sep : String) : List String → String
  | [] => ""
  | [s] => s
  | s :: ss => s ++ sep ++ join sep ss

/-- `repr` of a string without control characters. -/
def pyRepr (s : String) : String :=
  let quote := if isIn "'" s && !isIn "\"" s then "\"" else "'"
  let escape (c : Char) : List Char :=
    if c = '\\' then ['\\', '\\'] else if quote = "'" ∧ c = '\'' then ['\\', '\''] else [c]
  quote ++ String.ofList (s.toList.flatMap escape) ++ quote

def reprList (ss : List String) : String := "[" ++ join ", " (ss.map pyRepr) ++ "]"

def reprDict (kvs : List (String × String)) : String :=
  "\x7b" ++ join ", " (kvs.map fun p => pyRepr p.1 ++ ": " ++ pyRepr p.2) ++ "\x7d"

/-- The decimal exponent of `n / d`: the `e` with `10 ^ e ≤ n / d < 10 ^ (e + 1)`. -/
def decimalExponent (n d : Nat) : Int :=
  if d ≤ n then (Nat.log 10 (n / d) : Int)
  else
    let j := Nat.log 10 (d / n)
    if n * 10 ^ j = d then -(j : Int) else -(j : Int) - 1

/-- The decimal of so many digits, beginning at `10 ^ e`, that a float can be read back from: of the
two around it, the nearer if it will do. -/
def readable? (q : Rat) (e : Int) (digits : Nat) : Option Nat :=
  let shift := (digits : Int) - 1 - e
  let n := q.num.natAbs * 10 ^ shift.toNat
  let d := q.den * 10 ^ (-shift).toNat
  let near := roundHalfEven n d
  let far := if near = n / d then near + 1 else n / d
  let back (m : Nat) := PyFloat.nearest (mkRat (m * 10 ^ (-shift).toNat : Nat) (10 ^ shift.toNat))
  [near, far].find? fun m => back m = .fin (mkRat q.num.natAbs q.den)

/-- The shortest decimal that a float can be read back from; seventeen digits always do. -/
def shortest (q : Rat) (e : Int) : Nat × Nat :=
  ((List.range' 1 17).findSome? fun digits => (readable? q e digits).map (digits, ·)).getD
    (17, roundHalfEven (q.num.natAbs * 10 ^ (16 - e).toNat) (q.den * 10 ^ (e - 16).toNat))

def padLeft (width : Nat) (s : String) : String :=
  String.ofList (List.replicate (width - s.length) '0') ++ s

/-- `e+22` -/
def exponentText (e : Int) : String :=
  "e" ++ (if e < 0 then "-" else "+") ++ padLeft 2 (toString e.natAbs)

/-- `ds` with its point after the first `point` digits, which may be none of them or more. -/
def pointAt (point : Int) (ds : List Char) : String :=
  if point ≤ 0 then "0." ++ String.ofList (List.replicate (-point).toNat '0' ++ ds)
  else
    let rest := ds.drop point.toNat
    String.ofList (ds.take point.toNat ++ List.replicate (point.toNat - ds.length) '0') ++ "." ++
      (if rest = [] then "0" else String.ofList rest)

/-- The digits of `m`, the first of them at `10 ^ e`, as `repr` sets them out. -/
def setOut (e : Int) (m : Nat) : String :=
  let ds := ((toString m).toList.reverse.dropWhile (· = '0')).reverse
  if -4 ≤ e ∧ e < 16 then pointAt (e + 1) ds
  else String.ofList (ds.take 1) ++
    (if ds.length ≤ 1 then "" else "." ++ String.ofList (ds.drop 1)) ++ exponentText e

def reprFloat (q : Rat) : String :=
  if q = 0 then "0.0" else
    let first := decimalExponent q.num.natAbs q.den
    let read := shortest q first
    -- a decimal that was rounded up to a power of ten has one digit more
    (if q < 0 then "-" else "") ++ setOut (first + ((toString read.2).length - read.1)) read.2

def reprNum : PyFloat → String
  | .fin q => reprFloat q
  | .inf neg => if neg then "-inf" else "inf"
  | .nan => "nan"

example : [1 / 100000, 10 ^ 22, 1 / 10, 16384, 123456789012345680000, 5 / 2].map reprFloat =
    ["1e-05", "1e+22", "0.1", "16384.0", "1.2345678901234568e+20", "2.5"] := by decide +kernel

def numeric (c : Char) : Bool := c.isDigit || "-+.einfa".toList.contains c

theorem numeric_toString {n : Nat} {c : Char} (h : c ∈ (toString n).toList) : numeric c = true := by
  rw [Nat.toString_eq_repr, Nat.repr_eq_ofList_toDigits, String.toList_ofList] at h
  simp [numeric, Nat.isDigit_of_mem_toDigits (by decide) (by decide) h]

theorem numeric_of_all {s : String} (hs : s.toList.all numeric = true) {c : Char}
    (h : c ∈ s.toList) : numeric c = true := List.all_eq_true.mp hs c h

theorem numeric_append {s t : String} (hs : ∀ c ∈ s.toList, numeric c = true)
    (ht : ∀ c ∈ t.toList, numeric c = true) : ∀ c ∈ (s ++ t).toList, numeric c = true := by
  intro c hc
  rw [String.toList_append, List.mem_append] at hc
  exact hc.elim (hs c) (ht c)

theorem numeric_ofList {cs : List Char} (h : ∀ c ∈ cs, numeric c = true) :
    ∀ c ∈ (String.ofList cs).toList, numeric c = true := by
  rwa [String.toList_ofList]

theorem numeric_zeros {n : Nat} : ∀ c ∈ List.replicate n '0', numeric c = true := by
  intro c hc
  rw [List.eq_of_mem_replicate hc]
  decide

theorem numeric_exponentText (e : Int) : ∀ c ∈ (exponentText e).toList, numeric c = true := by
  refine numeric_append (numeric_append (fun c => numeric_of_all (by decide)) ?_) ?_
  · split <;> exact fun c => numeric_of_all (by decide)
  · exact numeric_append (numeric_ofList numeric_zeros) fun c => numeric_toString

theorem numeric_pointAt {ds : List Char} (h : ∀ c ∈ ds, numeric c = true) (point : Int) :
    ∀ c ∈ (pointAt point ds).toList, numeric c = true := by
  unfold pointAt
  split
  · refine numeric_append (fun c => numeric_of_all (by decide)) (numeric_ofList ?_)
    exact List.forall_mem_append.mpr ⟨numeric_zeros, h⟩
  · refine numeric_append (numeric_append (numeric_ofList ?_) ?_) ?_
    · exact List.forall_mem_append.mpr
        ⟨fun c hc => h c (List.mem_of_mem_take hc), numeric_zeros⟩
    · exact fun c => numeric_of_all (by decide)
    · split
      · exact fun c => numeric_of_all (by decide)
      · exact numeric_ofList fun c hc => h c (List.mem_of_mem_drop hc)

theorem numeric_setOut (e : Int) (m : Nat) : ∀ c ∈ (setOut e m).toList, numeric c = true := by
  have hds : ∀ c ∈ ((toString m).toList.reverse.dropWhile (· = '0')).reverse,
      numeric c = true := fun c hc => numeric_toString
    (List.mem_reverse.mp ((List.dropWhile_sublist _).subset (List.mem_reverse.mp hc)))
  unfold setOut
  split
  · exact numeric_pointAt hds _
  · refine numeric_append (numeric_append (numeric_ofList ?_) ?_) (numeric_exponentText _)
    · exact fun c hc => hds c (List.mem_of_mem_take hc)
    · split
      · exact fun c => numeric_of_all (by decide)
      · refine numeric_append (fun c => numeric_of_all (by decide)) (numeric_ofList ?_)
        exact fun c hc => hds c (List.mem_of_mem_drop hc)

theorem numeric_reprFloat (q : Rat) : ∀ c ∈ (reprFloat q).toList, numeric c = true := by
  unfold reprFloat
  by_cases hq : q = 0
  · rw [if_pos hq]
    exact fun c => numeric_of_all (by decide)
  · rw [if_neg hq]
    refine numeric_append ?_ (numeric_setOut _ _)
    by_cases hneg : q < 0
    · rw [if_pos hneg]
      exact fun c => numeric_of_all (by decide)
    · rw [if_neg hneg]
      exact fun c => numeric_of_all (by decide)

theorem numeric_reprNum {x : PyFloat} {c : Char} (h : c ∈ (reprNum x).toList) :
    numeric c = true := by
  cases x with
  | fin q => exact numeric_reprFloat q c h
  | inf neg => cases neg <;> exact numeric_of_all (by decide) h
  | nan => exact numeric_of_all (by decide) h

/-- `n` thousandths or the like: `n / 10 ^ places` with all its places. -/
def fixedPoint (places n : Nat) : String :=
  let whole := toString (n / 10 ^ places)
  if places = 0 then whole else whole ++ "." ++ padLeft places (toString (n % 10 ^ places))

/-- `f"{q:.3f}"` -/
def format3f (q : Rat) : String :=
  (if q.num < 0 then "-" else "") ++
    fixedPoint 3 (roundHalfEven (1000 * q.num.natAbs) q.den)

/-- `f"{x:.3f}"` -/
def formatNum3f : PyFloat → String
  | .fin q => format3f q
  | .inf neg => if neg then "-inf" else "inf"
  | .nan => "nan"

def stripZeros (s : String) : String :=
  if isIn "." s then
    let rev := s.toList.reverse.dropWhile (· = '0')
    String.ofList (match rev with
      | '.' :: cs => cs.reverse
      | cs => cs.reverse)
  else s

/-- `f"{q:.4g}"` -/
def format4g (q : Rat) : String :=
  let n := q.num.natAbs
  if n = 0 then "0" else
    let e := decimalExponent n q.den
    let shift := 3 - e
    let m := if 0 ≤ shift then roundHalfEven (n * 10 ^ shift.toNat) q.den
      else roundHalfEven n (q.den * 10 ^ (-shift).toNat)
    let (m, e) := if m = 10000 then (1000, e + 1) else (m, e)
    let sign := if q.num < 0 then "-" else ""
    if -4 ≤ e ∧ e < 4 then sign ++ stripZeros (fixedPoint (3 - e).toNat m)
    else sign ++ stripZeros (fixedPoint 3 m) ++ exponentText e

end PyText

namespace Json

open PyText

mutual

def repr : Json → String
  | .null => "None"
  | .bool b => if b then "True" else "False"
  | .int n => toString n
  | .float x => reprNum x
  | .str s => pyRepr s
  | .list xs => "[" ++ join ", " (reprItems xs) ++ "]"
  | .dict kvs => "\x7b" ++ join ", " (reprMembers kvs) ++ "\x7d"

def reprItems : List Json → List String
  | [] => []
  | x :: xs => repr x :: reprItems xs

def reprMembers : List (String × Json) → List String
  | [] => []
  | (k, x) :: xs => (pyRepr k ++ ": " ++ repr x) :: reprMembers xs

end

/-- `float(n)`: the nearest number of 53 bits, a half to the even neighbour. -/
def floatOfInt (n : Int) : Except PyErr PyFloat :=
  let below := 2 ^ (Nat.log2 n.natAbs - 52)
  let rounded := roundHalfEven n.natAbs below * below
  if rounded < 2 ^ 1024 then .ok (.fin (n.sign * rounded))
  else .error (.overflowError "int too large to convert to float")

/-- `float(v)` of a number -/
def toFloat : Json → Except PyErr PyFloat
  | .bool b => .ok (.fin (if b then 1 else 0))
  | .int n => floatOfInt n
  | .float x => .ok x
  | v => .error (.typeError ("float() argument must be a string or a real number, not " ++
      pyRepr v.typeName))

/-- `bool(v)` -/
def truthy : Json → Bool
  | .null => false
  | .bool b => b
  | .int n => decide (n ≠ 0)
  | .float x => decide (x ≠ .fin 0)
  | .str s => decide (s ≠ "")
  | .list xs => !xs.isEmpty
  | .dict kvs => !kvs.isEmpty

def toInt? (v : Json) : Option Int := v.num?.bind fun x => x.toInt.toOption

def pyStr : Json → String
  | .str s => s
  | v => repr v

/-! ## Optional attributes -/

theorem orNull_injective {α : Type} {f : α → Json} (hf : ∀ a b, f a = f b → a = b)
    (hnull : ∀ a, f a ≠ .null) {o o' : Option α}
    (h : (o.map f).getD .null = (o'.map f).getD .null) : o = o' := by
  cases o with
  | none =>
    cases o' with
    | none => rfl
    | some b => exact absurd h.symm (hnull b)
  | some a =>
    cases o' with
    | none => exact absurd h (hnull a)
    | some b => exact congrArg some (hf a b h)

theorem intOrNull_injective {o o' : Option Int}
    (h : (o.map int).getD .null = (o'.map int).getD .null) : o = o' :=
  orNull_injective (fun _ _ => int.inj) (fun _ => nofun) h

theorem strOrNull_injective {o o' : Option String}
    (h : (o.map str).getD .null = (o'.map str).getD .null) : o = o' :=
  orNull_injective (fun _ _ => str.inj) (fun _ => nofun) h

theorem floatOrNull_injective {o o' : Option PyFloat}
    (h : (o.map float).getD .null = (o'.map float).getD .null) : o = o' :=
  orNull_injective (fun _ _ => float.inj) (fun _ => nofun) h

end Json

def PyErr.str : PyErr → String
  | .keyError msg => PyText.pyRepr msg
  | .valueError msg | .typeError msg | .overflowError msg | .runtimeError msg
  | .attributeError msg | .osError msg | .zeroDivisionError msg | .memoryError msg => msg
