import Trimtab.Dict
import Trimtab.Effects
import Trimtab.PyLines

set_option autoImplicit false

/-!
# The text of an engine's metrics

`parse` reads a page line by line. Families are told apart by the suffix of a name and by what
the lines before have left in `out`.
-/
namespace Trimtab.MetricsText
open Effects PyText

/-- Exact: the rounding of sums is left out. -/
def add : PyFloat → PyFloat → PyFloat
  | .fin a, .fin b => .fin (a + b)
  | .inf a, .inf b => if a = b then .inf a else .nan
  | .inf a, .fin _ => .inf a
  | .fin _, .inf b => .inf b
  | _, _ => .nan

def zero : PyFloat := .fin 0

/-- `[a-zA-Z_:]` -/
def nameStart (c : Char) : Bool := c.isAlpha || c = '_' || c = ':'

/-- `[a-zA-Z0-9_:]` -/
def nameChar (c : Char) : Bool := nameStart c || c.isDigit

/-- `[-+0-9.eE+naNIif]` -/
def valueChar (c : Char) : Bool := c.isDigit || "-+.eEnaNIif".toList.contains c

structure LineMatch where
  name : String
  labels : List Char
  value : String
  deriving DecidableEq

/-- `(\{[^}]*\})?`, and what follows it. -/
def labelGroup : List Char → List Char × List Char
  | '\x7b' :: cs =>
    match cut '\x7d' cs with
    | (inside, some after) => ('\x7b' :: inside ++ ['\x7d'], after)
    | (_, none) => ([], '\x7b' :: cs)
  | cs => ([], cs)

/-- `LINE.match(raw)`. Giving back what a group has taken never helps: the next one could not
start with it. -/
def LINE (raw : List Char) : Option LineMatch :=
  let (labels, rest) := labelGroup (raw.dropWhile nameChar)
  let value := (rest.dropWhile isSpace).takeWhile valueChar
  if raw.head?.any nameStart && rest.head?.any isSpace && !value.isEmpty then
    some ⟨String.ofList (raw.takeWhile nameChar), labels, String.ofList value⟩
  else none

def quoted (cs : List Char) : Option (List Char) :=
  match cut '"' cs with
  | (inside, some _) => if inside.isEmpty then none else some inside
  | (_, none) => none

def leHere : List Char → Option (List Char)
  | 'l' :: 'e' :: '=' :: '"' :: cs => quoted cs
  | _ => none

/-- `re.search(r'le="([^"]+)"', labels)` -/
def searchLe : List Char → Option (List Char)
  | [] => none
  | c :: cs => (leHere (c :: cs)).or (searchLe cs)

structure Histogram where
  buckets : Dict PyFloat PyFloat
  count : PyFloat
  sum : PyFloat
  deriving DecidableEq

/-- The dict under one name: with `value`, with `buckets`, `count` and `sum`, or with all four. -/
structure Entry where
  value : Option PyFloat
  histogram : Option Histogram
  deriving DecidableEq

abbrev Page := Dict String Entry

def Entry.getHistogram (entry : Entry) (key : String) : Except PyErr Histogram :=
  match entry.histogram with
  | some h => .ok h
  | none => .error (.keyError key)

inductive Branch where
  | bucket (base : String)
  | count (base : String)
  | sum (base : String)
  | value
  deriving DecidableEq

def branch (seen : String → Bool) (name : String) : Branch :=
  match removeSuffix? "_bucket" name with
  | some base => .bucket base
  | none =>
    match (removeSuffix? "_count" name).filter seen with
    | some base => .count base
    | none =>
      match (removeSuffix? "_sum" name).filter seen with
      | some base => .sum base
      | none => .value

/-- `float(le.group(1)) if le.group(1) != "+Inf" else float("inf")` -/
def bound (labels : List Char) : Except PyErr PyFloat :=
  match searchLe labels with
  | none => .error (.attributeError "'NoneType' object has no attribute 'group'")
  | some le => if le = "+Inf".toList then .ok (.inf false) else textToFloat (String.ofList le)

def emptyHistogram : Entry := ⟨none, some ⟨∅, zero, zero⟩⟩

def addBucket (out : Page) (base : String) (labels : List Char) (val : PyFloat) :
    Except PyErr Page := do
  let entry := (out.get? base).getD emptyHistogram
  let h ← entry.getHistogram "buckets"
  let le ← bound labels
  let cum := add ((h.buckets.get? le).getD zero) val
  return out.insert base { entry with histogram := some { h with buckets := h.buckets.insert le cum } }

/-- `out[base][key] += val`, where `base in out` -/
def addTo (key : String) (put : Histogram → PyFloat → Histogram) (out : Page) (base : String)
    (val : PyFloat) : Except PyErr Page :=
  match out.get? base with
  | none => .error (.keyError base)
  | some entry => do
    let h ← entry.getHistogram key
    return out.insert base { entry with histogram := some (put h val) }

def addCount : Page → String → PyFloat → Except PyErr Page :=
  addTo "count" fun h val => { h with count := add h.count val }

def addSum : Page → String → PyFloat → Except PyErr Page :=
  addTo "sum" fun h val => { h with sum := add h.sum val }

def addValue (out : Page) (name : String) (val : PyFloat) : Page :=
  let entry := (out.get? name).getD ⟨some zero, none⟩
  out.insert name { entry with value := some (add (entry.value.getD zero) val) }

def Branch.put (out : Page) (m : LineMatch) (val : PyFloat) : Branch → Except PyErr Page
  | .bucket base => addBucket out base m.labels val
  | .count base => addCount out base val
  | .sum base => addSum out base val
  | .value => .ok (addValue out m.name val)

def handle (out : Page) (m : LineMatch) : Except PyErr Page := do
  let val ← textToFloat m.value
  (branch out.contains m.name).put out m val

/-- Empty lines and comments are passed over, and so is what does not match. -/
def readLine (raw : List Char) : Option LineMatch :=
  if raw.isEmpty || raw.head? = some '#' then none else LINE raw

def readings (text : List Char) : List LineMatch := (splitLines text).filterMap readLine

end Trimtab.MetricsText
