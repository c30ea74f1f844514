import Trimtab.MetricsText

set_option autoImplicit false

/-!
# Prometheus' text format

What a page says, apart from how it is read: lines of gauges, counters, summaries and
histograms, and the numbers they add up to.
-/
namespace Trimtab.Exposition
open MetricsText PyText

inductive Blank where
  | space
  | tab
  deriving DecidableEq

abbrev Pad := List Blank

def Blank.char : Blank → Char
  | .space => ' '
  | .tab => '\t'

def Pad.text (p : Pad) : List Char := p.map Blank.char

def isMetricName (cs : List Char) : Bool := cs.head?.any nameStart && cs.all nameChar

def isLabelName (cs : List Char) : Bool :=
  isMetricName cs && !cs.contains ':'

abbrev MetricName := { s : String // isMetricName s.toList = true }

abbrev LabelName := { cs : List Char // isLabelName cs = true }

/-- A number as it is written: a decimal with or without an exponent, an infinity or `NaN`. -/
structure Number where
  text : String
  num : PyFloat
  made : text.toList.all valueChar = true
  reads : textToFloat text = .ok num

def escapeChar (c : Char) : List Char :=
  if c = '\\' then ['\\', '\\'] else if c = '"' then ['\\', '"'] else if c = '\n' then ['\\', 'n']
  else [c]

def escape (value : List Char) : List Char := value.flatMap escapeChar

structure Label where
  lead : Pad := []
  name : LabelName
  beforeEq : Pad := []
  afterEq : Pad := []
  value : List Char
  trail : Pad := []

def Label.front (l : Label) : List Char :=
  l.lead.text ++ l.name.1 ++ l.beforeEq.text ++ '=' :: l.afterEq.text

def Label.text (l : Label) : List Char :=
  l.front ++ '"' :: escape l.value ++ '"' :: l.trail.text

/-- The labels between braces. The last may have a comma after it. -/
structure LabelSet where
  labels : List Label
  comma : Bool := false
  trail : Pad := []

def labelsText (comma : Bool) (trail : Pad) : List Label → List Char
  | [] => trail.text
  | l :: ls => l.text ++ (if ls.isEmpty && !comma then [] else [',']) ++ labelsText comma trail ls

def LabelSet.inner (s : LabelSet) : List Char := labelsText s.comma s.trail s.labels

def LabelSet.text (s : LabelSet) : List Char := '\x7b' :: s.inner ++ ['\x7d']

inductive Role where
  | single
  | quantile
  | summaryCount
  | summarySum
  | bucket (le : Number)
  | count
  | sum

inductive Kind where
  | single
  | summary
  | histogram
  deriving DecidableEq

def Role.kind : Role → Kind
  | .single => .single
  | .quantile | .summaryCount | .summarySum => .summary
  | .bucket _ | .count | .sum => .histogram

def Role.suffix : Role → String
  | .single | .quantile => ""
  | .summaryCount | .count => "_count"
  | .summarySum | .sum => "_sum"
  | .bucket _ => "_bucket"

def Kind.names (family : String) : Kind → List String
  | .single => [family]
  | .summary => [family, family ++ "_count", family ++ "_sum"]
  | .histogram => [family, family ++ "_bucket", family ++ "_count", family ++ "_sum"]

structure Series where
  lead : Pad := []
  family : MetricName
  role : Role
  beforeLabels : Pad := []
  labels : Option LabelSet := none
  gap : Pad := [.space]
  value : Number
  stamp : Option (Pad × Int) := none
  trail : Pad := []

namespace Series

def name (s : Series) : String := s.family.1 ++ s.role.suffix

def labelText (s : Series) : List Char := (s.labels.map LabelSet.text).getD []

def labelList (s : Series) : List Label := (s.labels.map LabelSet.labels).getD []

def stampText (s : Series) : List Char :=
  (s.stamp.map fun p => p.1.text ++ (toString p.2).toList).getD []

def text (s : Series) : List Char :=
  s.lead.text ++ s.name.toList ++ (if s.labels.isSome then s.beforeLabels.text else []) ++
    s.labelText ++ s.gap.text ++ s.value.text.toList ++ s.stampText ++ s.trail.text

end Series

inductive Line where
  | comment (lead : Pad) (text : List Char)
  | blank (pad : Pad)
  | series (s : Series)

/-- `# HELP`, `# TYPE` and every other comment. -/
def Line.text : Line → List Char
  | .comment lead text => lead.text ++ '#' :: text
  | .blank pad => pad.text
  | .series s => s.text

def Line.series? : Line → Option Series
  | .series s => some s
  | _ => none

abbrev Page := List Line

def render (page : Page) : String := String.ofList (page.flatMap fun line => line.text ++ ['\n'])

def series (page : Page) : List Series := page.filterMap Line.series?

/-- Tokens that would merge are kept apart, and a bucket line says its bound. -/
structure Series.WellFormed (s : Series) : Prop where
  gap : s.labels = none → s.gap ≠ []
  stamp : ∀ p, s.stamp = some p → p.1 ≠ []
  distinct : (s.labelList.map fun l => l.name).Nodup
  bound : ∀ le, s.role = .bucket le →
    le.num ≠ .nan ∧ ∃ l ∈ s.labelList, l.name.1 = "le".toList ∧ l.value = le.text.toList

structure WellFormed (page : Page) : Prop where
  lines : ∀ s ∈ series page, s.WellFormed
  comments : ∀ lead text, Line.comment lead text ∈ page → '\n' ∉ text
  kinds : ∀ s ∈ series page, ∀ t ∈ series page, s.family.1 = t.family.1 → s.role.kind = t.role.kind
  apart : ∀ s ∈ series page, ∀ t ∈ series page, s.family.1 ≠ t.family.1 →
    List.Disjoint (s.role.kind.names s.family.1) (t.role.kind.names t.family.1)
  bucketsFirst : ∀ before s after, page = before ++ .series s :: after →
    s.role = .count ∨ s.role = .sum →
    ∃ t ∈ series before, t.family.1 = s.family.1 ∧ ∃ le, t.role = .bucket le

/-! ## What a page adds up to -/

def total? : List PyFloat → Option PyFloat
  | [] => none
  | xs => some (xs.foldl add zero)

def sumOf (p : Series → Bool) (ss : List Series) : Option PyFloat :=
  total? ((ss.filter p).map fun s => s.value.num)

def Role.isBucket : Role → Bool
  | .bucket _ => true
  | _ => false

def Role.isBucketOf (le : PyFloat) : Role → Bool
  | .bucket x => x.num = le
  | _ => false

def Role.isCount : Role → Bool
  | .count => true
  | _ => false

def Role.isSum : Role → Bool
  | .sum => true
  | _ => false

/-- Lines that stand for themselves: those of gauges, counters and summaries. -/
def Series.plain (s : Series) : Bool := s.role.kind ≠ .histogram

def Series.ofFamily (n : String) (s : Series) : Bool := s.family.1 = n

def Series.entry (s : Series) : String := if s.plain then s.name else s.family.1

def entries (page : Page) : List String := (series page).map Series.entry

end Trimtab.Exposition
