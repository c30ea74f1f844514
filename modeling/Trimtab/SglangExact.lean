import Mathlib.Algebra.Order.Ring.Rat
import Mathlib.Tactic.NormNum
import Trimtab.KeyedLoop
import Trimtab.SglangAnswer

set_option autoImplicit false

/-! What SGLang's hot knobs make of each key of a request, and that no other key has a part in it. -/
namespace Trimtab.SglangExact
open PyText Effects SglangScheduler KeyedLoop

def intKnobs : List String :=
  ["max_running_requests", "max_queued_requests", "chunked_prefill_size", "max_prefill_tokens"]

def attributes (s : Sched) (key : String) : List Json :=
  if key = "max_running_requests" then [.int s.maxRunningRequests]
  else if key = "max_queued_requests" then [(s.maxQueuedRequests.map Json.int).getD .null]
  else if key = "chunked_prefill_size" then [(s.chunkedPrefillSize.map Json.int).getD .null]
  else if key = "max_prefill_tokens" then [.int s.maxPrefillTokens]
  else if key = "schedule_policy" then [.str s.schedulePolicy, .str s.policy]
  else if key = "schedule_conservativeness" then
    [(s.conservativeness.map Json.float).getD .null, .float s.newTokenRatioTracker.init,
      .float s.newTokenRatioTracker.min, .float s.newTokenRatioTracker.decay,
      .float s.newTokenRatioTracker.current]
  else if key = "log_level" then [(s.logLevel.map Json.str).getD .null]
  else []

/-! ## Messages -/

def message (verb key rest : String) : String := verb ++ key ++ "=" ++ rest

def appliedText : String → String → String := message "trimtab applied "

def rejectedText : String → String → String := message "trimtab rejected "

def isRejection (msg : String) : Bool := "trimtab rejected ".toList.isPrefixOf msg.toList

def subject (msg : String) : String :=
  String.ofList ((msg.toList.drop (if isRejection msg then 17 else 16)).takeWhile (· ≠ '='))

theorem message_toList (verb key rest : String) : (message verb key rest).toList =
    verb.toList ++ (key.toList ++ ("=".toList ++ rest.toList)) := by
  rw [message, String.toList_append, String.toList_append, String.toList_append,
    List.append_assoc, List.append_assoc]

theorem isRejection_applied (key rest : String) : isRejection (appliedText key rest) = false := by
  rw [isRejection, appliedText, message_toList, Bool.eq_false_iff, ne_eq,
    List.isPrefixOf_iff_prefix]
  rintro ⟨rest', h⟩
  have htake := congrArg (List.take 16) h
  rw [List.take_append_of_le_length (by decide), List.take_append_of_le_length (by decide)] at htake
  revert htake
  decide

theorem isRejection_rejected (key rest : String) : isRejection (rejectedText key rest) = true := by
  rw [isRejection, rejectedText, message_toList]
  exact List.isPrefixOf_iff_prefix.mpr (List.prefix_append _ _)

theorem takeWhile_key {key : String} (h : '=' ∉ key.toList) (rest : List Char) :
    (key.toList ++ ("=".toList ++ rest)).takeWhile (· ≠ '=') = key.toList := by
  have heq : "=".toList = ['='] := by decide
  rw [heq, List.takeWhile_append_of_pos]
  · simp
  · intro c hc
    rw [decide_eq_true_iff]
    rintro rfl
    exact h hc

theorem subject_applied {key : String} (h : '=' ∉ key.toList) (rest : String) :
    subject (appliedText key rest) = key := by
  rw [subject, isRejection_applied, if_neg (by decide), appliedText, message_toList,
    List.drop_left' (by decide), takeWhile_key h, String.ofList_toList]

theorem subject_rejected {key : String} (h : '=' ∉ key.toList) (rest : String) :
    subject (rejectedText key rest) = key := by
  rw [subject, isRejection_rejected, if_pos rfl, rejectedText, message_toList,
    List.drop_left' (by decide), takeWhile_key h, String.ofList_toList]

theorem hotKeys_no_equals : ∀ k ∈ hotKeys, '=' ∉ k.toList := by decide

/-! ## One knob -/

section Knobs

variable (R : Stock)

def writtenAs (s : Sched) (key : String) (v : Json) : List Json :=
  if key = "schedule_policy" then
    [.str v.pyStr, .str ((R.validateAndAdjustPolicy v.pyStr s.treeCache).toOption.getD "")]
  else if key = "schedule_conservativeness" then
    let x := v.toFloat.toOption.getD .nan
    let t := rebuild R x
    [.float x, .float t.init, .float t.min, .float t.decay, .float t.current]
  else [stored key v]

/-- The message names the knob, and a knob that is written touches no other. -/
inductive Noted (s : Sched) (key : String) (v : Json) : Except PyErr Verdict → Prop where
  | raised (e : PyErr) : Noted s key v (.error e)
  | applied (t : Sched) (rest : String) (written : ∀ k, attributes t k =
      if k = key then writtenAs R s key v else attributes s k) :
      Noted s key v (.ok (.applied t (appliedText key rest)))
  | rejected (rest : String) : Noted s key v (.ok (.rejected (rejectedText key rest)))

variable {R}

theorem noted_intKnob {s : Sched} {key : String} {v : Json} {range : String}
    {write : Int → Sched} {within : Int → Bool}
    (hwritten : writtenAs R s key v = [.int (v.toInt?.getD 0)])
    (hwrite : ∀ n k, attributes (write n) k = if k = key then [.int n] else attributes s k) :
    Noted R s key v (intKnob key within range write v) := by
  have hrefused : Noted R s key v (.ok (.rejected
      ("trimtab rejected " ++ key ++ "=" ++ v.pyStr ++ ", " ++ range))) := by
    rw [String.append_assoc, String.append_assoc]
    exact .rejected _
  unfold intKnob
  cases hn : v.num? with
  | none => exact hrefused
  | some x =>
    dsimp only
    cases hx : x.toInt with
    | error e => exact .raised e
    | ok n =>
      have hint : v.toInt? = some n := by rw [Json.toInt?, hn, Option.bind_some, hx]; rfl
      change Noted R s key v (if within n = true then _ else _)
      split_ifs with hrange
      · refine .applied (write n) _ fun k => ?_
        rw [hwrite, hwritten, hint]
        rfl
      · exact hrefused

theorem noted_maxRunningRequests (v : Json) (s : Sched) :
    Noted R s "max_running_requests" v (maxRunningRequests v s) := by
  unfold maxRunningRequests
  cases s.ceilings with
  | none => exact .raised _
  | some ceiling =>
    refine noted_intKnob rfl fun n k => ?_
    unfold attributes
    by_cases hk : k = "max_running_requests" <;> simp only [hk, if_true, if_false]

theorem noted_maxQueuedRequests (v : Json) (s : Sched) :
    Noted R s "max_queued_requests" v (maxQueuedRequests v s) := by
  refine noted_intKnob rfl fun n k => ?_
  unfold attributes
  by_cases hk : k = "max_queued_requests" <;> simp only [hk, if_true, if_false]
  rfl

theorem noted_chunkedPrefillSize (v : Json) (s : Sched) :
    Noted R s "chunked_prefill_size" v (chunkedPrefillSize v s) := by
  refine noted_intKnob rfl fun n k => ?_
  unfold attributes
  by_cases hk : k = "chunked_prefill_size" <;> simp only [hk, if_true, if_false]
  rfl

theorem noted_maxPrefillTokens (v : Json) (s : Sched) :
    Noted R s "max_prefill_tokens" v (maxPrefillTokens v s) := by
  refine noted_intKnob rfl fun n k => ?_
  unfold attributes
  by_cases hk : k = "max_prefill_tokens" <;> simp only [hk, if_true, if_false]
  rfl

/-- A message whose text up to the value is one literal of the source. -/
theorem message_literal (verb key : String) {head : String} (h : verb ++ key ++ "=" = head)
    (rest : String) : head ++ rest = message verb key rest := by rw [message, h]

theorem noted_schedulePolicy (v : Json) (s : Sched) :
    Noted R s "schedule_policy" v (schedulePolicy R v s) := by
  unfold schedulePolicy
  cases hp : R.validateAndAdjustPolicy v.pyStr s.treeCache with
  | error e =>
    dsimp only
    rw [String.append_assoc, String.append_assoc, message_literal "trimtab rejected " "schedule_policy" (by decide)]
    exact .rejected _
  | ok new =>
    dsimp only
    rw [String.append_assoc, String.append_assoc, String.append_assoc,
      message_literal "trimtab applied " "schedule_policy" (by decide)]
    refine .applied _ _ fun k => ?_
    unfold attributes writtenAs
    by_cases hk : k = "schedule_policy" <;> simp only [hk, if_true, if_false]
    rw [hp]
    rfl

theorem noted_scheduleConservativeness (v : Json) (s : Sched) :
    Noted R s "schedule_conservativeness" v (scheduleConservativeness R v s) := by
  unfold scheduleConservativeness
  cases hn : v.num?.all PyFloat.nonpos with
  | true =>
    rw [if_pos rfl, String.append_assoc, message_literal "trimtab rejected " "schedule_conservativeness" (by decide)]
    exact .rejected _
  | false =>
    rw [if_neg (by decide)]
    cases hx : v.toFloat with
    | error e => exact .raised e
    | ok x =>
      change Noted R s _ v (.ok (.applied _ _))
      simp only [String.append_assoc]
      rw [message_literal "trimtab applied " "schedule_conservativeness" (by decide)]
      refine .applied _ _ fun k => ?_
      unfold attributes writtenAs
      by_cases hk : k = "schedule_conservativeness" <;> simp only [hk, if_true, if_false]
      rw [hx]
      rfl

theorem noted_logLevel (v : Json) (s : Sched) :
    Noted R s "log_level" v (SglangScheduler.logLevel v s) := by
  unfold SglangScheduler.logLevel
  cases hin : logLevels.contains (upper v.pyStr) with
  | false =>
    simp only [hin, Bool.not_false, if_true]
    rw [String.append_assoc, message_literal "trimtab rejected " "log_level" (by decide)]
    exact .rejected _
  | true =>
    simp only [hin, Bool.not_true, Bool.false_eq_true, if_false]
    rw [message_literal "trimtab applied " "log_level" (by decide)]
    refine .applied _ _ fun k => ?_
    unfold attributes
    by_cases hk : k = "log_level" <;> simp only [hk, if_true, if_false]
    rfl

theorem hotKnobs_noted : ∀ p ∈ hotKnobs R, ∀ v s, Noted R s p.1 v (p.2 v s) := by
  simp only [hotKnobs, List.forall_mem_cons, List.not_mem_nil, false_implies, implies_true, and_true]
  exact ⟨noted_maxRunningRequests, noted_maxQueuedRequests, noted_chunkedPrefillSize,
    noted_maxPrefillTokens, noted_schedulePolicy, noted_scheduleConservativeness, noted_logLevel⟩

end Knobs

/-! ## One round -/

/-- What a call shows of a key: its value while it is in the request, the knob's attributes, and
the messages about it. -/
structure Slot where
  arg : Option Json
  attributes : List Json
  messages : List String

def slot (h : Handling) (key : String) : Slot :=
  ⟨h.args.get? key, attributes h.sched key, h.msgs.filter fun m => subject m = key⟩

/-- What no round changes: the bounds that the verdicts depend on, and that the call's verdict
is the one of its messages. -/
structure Context (s : Sched) (h : Handling) : Prop where
  bounds : SameBounds s h.sched
  ok : h.ok = true ↔ ∀ m ∈ h.msgs, isRejection m = false

def Bad (s : Sched) (key : String) (old : Slot) : Prop :=
  ∃ v, old.arg = some v ∧ decides s key v = false

section Rounds

variable (R : Stock)

inductive Settled (s : Sched) (key : String) (old : Slot) : Slot → Prop where
  | absent (none : old.arg = none) : Settled s key old old
  | applied (v : Json) (arg : old.arg = some v) (taken : takes R s key v = true) (rest : String) :
      Settled s key old ⟨none, writtenAs R s key v, old.messages ++ [appliedText key rest]⟩
  | rejected (v : Json) (arg : old.arg = some v) (refused : takes R s key v = false)
      (rest : String) :
      Settled s key old ⟨none, old.attributes, old.messages ++ [rejectedText key rest]⟩

variable {R}

theorem writtenAs_congr {s t : Sched} (h : SameBounds s t) : writtenAs R t = writtenAs R s := by
  funext key v
  rw [writtenAs, writtenAs, h.treeCache]

/-- The log of a key when a message about `key` is added. -/
theorem filter_msgs {key text : String} (hsubject : subject text = key) (msgs : List String)
    (k : String) : ((msgs ++ [text]).filter fun m => subject m = k) =
      (msgs.filter fun m => subject m = k) ++ if k = key then [text] else [] := by
  rw [List.filter_append]
  by_cases hk : k = key
  · simp [hk, hsubject]
  · simp [hk, hsubject, Ne.symm hk]

/-- A knob that is consumed with a message about it leaves the slots of the others alone. -/
theorem slot_step (h : Handling) (t : Sched) (ok : Bool) {key text : String}
    (hsubject : subject text = key)
    (hframe : ∀ k, k ≠ key → attributes t k = attributes h.sched k) :
    slot ⟨t, h.args.erase key, ok, h.msgs ++ [text]⟩ key =
        ⟨none, attributes t key, (slot h key).messages ++ [text]⟩ ∧
      ∀ k, k ≠ key → slot ⟨t, h.args.erase key, ok, h.msgs ++ [text]⟩ k = slot h k := by
  constructor
  · simp only [slot, Dict.get?_erase, filter_msgs hsubject, if_true]
  · intro k hk
    simp only [slot, Dict.get?_erase, filter_msgs hsubject, hk, if_false, List.append_nil, hframe k hk]

theorem rounds (s : Sched) :
    Rounds (Context s) slot (fun key _ old => Bad s key old)
      (fun key _ old new => Settled R s key old new) consume (hotKnobs R) where
  raises p hp h hctx hbad := by
    obtain ⟨v, harg, hdecides⟩ := hbad
    have hj := hotKnobs_judged p hp v h.sched
    cases hverdict : p.2 v h.sched with
    | error e => exact ⟨e, _, consume_raised harg hverdict⟩
    | ok verdict =>
      rw [← decides_congr hctx.bounds] at hdecides
      rw [hverdict] at hj
      cases hj with
      | applied _ _ decided => rw [hdecides] at decided; cases decided
      | rejected _ decided => rw [hdecides] at decided; cases decided
  returns p hp h hctx hgood := by
    cases harg : h.args.get? p.1 with
    | none => exact ⟨h, consume_absent harg, hctx, .absent harg, fun _ _ => rfl⟩
    | some v =>
      have hequals := hotKeys_no_equals p.1 (List.mem_map.mpr ⟨p, hp, rfl⟩)
      have hj := hotKnobs_judged p hp v h.sched
      have hnoted := hotKnobs_noted p hp v h.sched
      generalize hverdict : p.2 v h.sched = verdict at hj hnoted
      cases hnoted with
      | raised e =>
        obtain ⟨_, undecided⟩ := hj
        rw [decides_congr hctx.bounds] at undecided
        exact absurd ⟨v, harg, undecided⟩ hgood
      | applied t rest written =>
        obtain _ | ⟨_, _, decided, taken, bounds, -⟩ := hj
        rw [takes_congr hctx.bounds] at taken
        rw [writtenAs_congr hctx.bounds] at written
        have hslot := slot_step h t h.ok (subject_applied hequals rest)
          (fun k hk => (written k).trans (if_neg hk))
        refine ⟨_, consume_applied harg hverdict, ⟨hctx.bounds.trans bounds, ?_⟩, ?_, hslot.2⟩
        · rw [hctx.ok]
          simp only [List.forall_mem_append, List.forall_mem_singleton, isRejection_applied, and_true]
        · rw [hslot.1, written, if_pos rfl]
          exact .applied v harg taken rest
      | rejected rest =>
        obtain _ | _ | ⟨_, decided, refused⟩ := hj
        rw [takes_congr hctx.bounds] at refused
        have hslot := slot_step h h.sched false (subject_rejected hequals rest)
          (fun _ _ => rfl)
        refine ⟨_, consume_rejected harg hverdict, ⟨hctx.bounds, ?_⟩, ?_, hslot.2⟩
        · simp [isRejection_rejected]
        · rw [hslot.1]
          exact .rejected v harg refused rest

end Rounds

/-! ## Which values a knob can take -/

/-- A value that goes through `int` is no infinity and not `NaN`; a conservativeness is not `NaN`,
and a positive integer for it has a float. -/
def Sound (key : String) (v : Json) : Prop :=
  (key ∈ intKnobs → ∀ x, v = .float x → ∃ q, x = .fin q) ∧
    (key = "schedule_conservativeness" → v ≠ .float .nan ∧
      ∀ n : Int, v = .int n → 0 < n → ∃ x, Json.floatOfInt n = .ok x)

theorem isOk_iff {ε α : Type} {x : Except ε α} : x.isOk = true ↔ ∃ a, x = .ok a := by
  cases x with
  | error e => simp [Except.isOk, Except.toBool]
  | ok a => simp [Except.isOk, Except.toBool]

theorem toInt_all_iff (v : Json) : (v.num?.all fun x => x.toInt.isOk) = true ↔
    ∀ x, v = .float x → ∃ q, x = .fin q := by
  cases v with
  | float x => cases x <;> simp [Json.num?, PyFloat.toInt, Except.isOk, Except.toBool]
  | bool b => cases b <;> simp [Json.num?, PyFloat.toInt, Except.isOk, Except.toBool]
  | int n => simp [Json.num?, PyFloat.toInt, Except.isOk, Except.toBool]
  | _ => simp [Json.num?]

theorem toFloat_decided_iff (v : Json) : (v.num?.all PyFloat.nonpos || v.toFloat.isOk) = true ↔
    ∀ n : Int, v = .int n → 0 < n → ∃ x, Json.floatOfInt n = .ok x := by
  cases v with
  | int n =>
    have hnonpos : (Json.int n).num?.all PyFloat.nonpos = true ↔ ¬0 < n := by
      rw [Json.num?, Option.all_some, PyFloat.nonpos, decide_eq_true_eq, Int.cast_nonpos, not_lt]
    rw [Bool.or_eq_true, hnonpos, Json.toFloat, isOk_iff]
    simp only [Json.int.injEq]
    refine ⟨fun h m hm hpos => hm ▸ h.resolve_left (not_not.mpr (hm ▸ hpos)), fun h => ?_⟩
    exact or_iff_not_imp_left.mpr fun hpos => h n rfl (not_not.mp hpos)
  | bool b => simp [Json.toFloat, isOk_iff]
  | float x => simp [Json.toFloat, isOk_iff]
  | _ => simp [Json.num?]

theorem sound_iff {s : Sched} (hceil : s.ceilings.isSome) {key : String} (hkey : key ∈ hotKeys)
    (v : Json) : Sound key v ↔
      decides s key v = true ∧ (key = "schedule_conservativeness" → v ≠ .float .nan) := by
  by_cases hint : key ∈ intKnobs
  · have hcons : key ≠ "schedule_conservativeness" := by
      rintro rfl
      revert hint
      decide
    have hdecides : decides s key v = v.num?.all fun x => x.toInt.isOk := by
      simp only [intKnobs, List.mem_cons, List.not_mem_nil, or_false] at hint
      rcases hint with rfl | rfl | rfl | rfl <;> simp [decides, hceil]
    simp only [Sound, hint, hcons, hdecides, toInt_all_iff, true_implies, false_implies, and_true]
  · by_cases hcons : key = "schedule_conservativeness"
    · subst hcons
      have hdecides : decides s "schedule_conservativeness" v =
        (v.num?.all PyFloat.nonpos || v.toFloat.isOk) := rfl
      simp only [Sound, hint, hdecides, toFloat_decided_iff, true_implies, false_implies, true_and]
      exact and_comm
    · have hdecides : decides s key v = true := by
        simp only [hotKeys, intKnobs, List.mem_cons, List.not_mem_nil, or_false, not_or] at hkey hint
        have hname : key = "schedule_policy" ∨ key = "log_level" := by tauto
        rcases hname with rfl | rfl <;> rfl
      simp only [Sound, hint, hcons, hdecides, false_implies, and_true]

/-! ## A positive float -/

theorem roundHalfEven_pos {n d : Nat} (h : d ≤ n) (hd : 0 < d) : 0 < roundHalfEven n d := by
  have hquot : 0 < n / d := Nat.div_pos h hd
  unfold roundHalfEven
  dsimp only
  split_ifs
  · exact hquot
  · exact Nat.succ_pos _

theorem floatOfInt_pos {n : Int} (h : 0 < n) {x : PyFloat} (hx : Json.floatOfInt n = .ok x) :
    PyFloat.lt (.fin 0) x = true := by
  have hbelow : 2 ^ (Nat.log2 n.natAbs - 52) ≤ n.natAbs :=
    (Nat.pow_le_pow_right (by decide) (Nat.sub_le _ _)).trans
      (Nat.log2_self_le (Int.natAbs_ne_zero.mpr h.ne'))
  have hpow : 0 < 2 ^ (Nat.log2 n.natAbs - 52) := Nat.two_pow_pos _
  have hrounded := Nat.mul_pos (roundHalfEven_pos hbelow hpow) hpow
  unfold Json.floatOfInt at hx
  dsimp only at hx
  split_ifs at hx
  cases hx
  rw [PyFloat.lt, decide_eq_true_eq, Int.sign_eq_one_of_pos h, Int.cast_one, one_mul]
  exact_mod_cast hrounded

theorem toFloat_pos {v : Json} (hnum : v.num?.all PyFloat.nonpos = false) {x : PyFloat}
    (hx : v.toFloat = .ok x) (hnan : v ≠ .float .nan) : PyFloat.lt (.fin 0) x = true := by
  cases v with
  | bool b =>
    cases hx
    cases b with
    | true => simp [PyFloat.lt]
    | false => simp [Json.num?, PyFloat.nonpos] at hnum
  | int n =>
    have hpos : 0 < n := by simpa [Json.num?, PyFloat.nonpos] using hnum
    exact floatOfInt_pos hpos hx
  | float y =>
    obtain rfl : y = x := Except.ok.inj hx
    cases y with
    | fin q => simpa [Json.num?, PyFloat.nonpos, PyFloat.lt] using hnum
    | inf neg => simpa [Json.num?, PyFloat.nonpos, PyFloat.lt] using hnum
    | nan => exact absurd rfl hnan
  | _ => cases hx

/-! ## A whole request -/

def ceilingOf (s : Sched) : Int := s.ceilings.getD s.maxRunningRequests

section Requests

variable (R : Stock)

inductive Written (s t : Sched) : String → Json → Prop where
  | maxRunningRequests (n : Int) (low : 1 ≤ n) (high : n ≤ ceilingOf s)
      (written : t.maxRunningRequests = n) : Written s t "max_running_requests" (.int n)
  | maxQueuedRequests (n : Int) (nonneg : 0 ≤ n) (written : t.maxQueuedRequests = some n) :
      Written s t "max_queued_requests" (.int n)
  | chunkedPrefillSize (n : Int) (positive : 0 < n) (written : t.chunkedPrefillSize = some n) :
      Written s t "chunked_prefill_size" (.int n)
  | maxPrefillTokens (n : Int) (low : 1 ≤ n) (high : n ≤ s.maxTotalNumTokens)
      (written : t.maxPrefillTokens = n) : Written s t "max_prefill_tokens" (.int n)
  | schedulePolicy (name effective : String)
      (valid : R.validateAndAdjustPolicy name s.treeCache = .ok effective)
      (written : t.schedulePolicy = name) (adjusted : t.policy = effective) :
      Written s t "schedule_policy" (.str name)
  | scheduleConservativeness (x : PyFloat) (positive : PyFloat.lt (.fin 0) x = true)
      (written : t.conservativeness = some x) (rebuilt : t.newTokenRatioTracker = rebuild R x) :
      Written s t "schedule_conservativeness" (.float x)
  | logLevel (level : String) (known : level ∈ logLevels) (written : t.logLevel = some level) :
      Written s t "log_level" (.str level)

/-- What a request gets: each knob it names is written or refused with a message that says so,
and no other knob is touched. -/
structure Exact (request : Fields) (s : Sched) (h : Handling) : Prop where
  each : ∀ k ∈ hotKeys, ∀ v, request.get? k = some v →
    (Written R s h.sched k (stored k v) ∧ ∃ rest, (slot h k).messages = [appliedText k rest]) ∨
    (attributes h.sched k = attributes s k ∧ ∃ rest, (slot h k).messages = [rejectedText k rest])
  others : ∀ k, request.get? k = none →
    attributes h.sched k = attributes s k ∧ (slot h k).messages = []
  bounds : SameBounds (recordCeilings s) h.sched
  rest : ∀ k, h.args.get? k = if k ∈ hotKeys then none else request.get? k
  ok : h.ok = true ↔ ∀ m ∈ h.msgs, isRejection m = false

/-- Two calls that differ at most in the order of what they leave. -/
structure SameOutcome (h h' : Handling) : Prop where
  sched : h'.sched = h.sched
  ok : h'.ok = h.ok
  msgs : h'.msgs = h.msgs
  args : ∀ k, h'.args.get? k = h.args.get? k

/-- The handler returns, is exact for each knob, and does not heed the order of the keys. -/
def Total (request : Fields) (s : Sched) : Prop :=
  ∃ h, (applyHotKnobs R).run (begin request s) = .ok () h ∧ Exact R request s h ∧
    ∀ request' : Fields, request'.entries.Perm request.entries →
      ∃ h', (applyHotKnobs R).run (begin request' s) = .ok () h' ∧ SameOutcome h h'

def AllSound (request : Fields) : Prop :=
  ∀ k ∈ hotKeys, ∀ v, request.get? k = some v → Sound k v

variable {R}

/-- An integer knob that is taken: the value it is written as. -/
theorem int_of_taken {s t : Sched} {key : String} (hkey : key ∈ intKnobs) {v : Json}
    (htaken : takes R s key v = true) (hattr : attributes t key = writtenAs R s key v) :
    ∃ n, stored key v = .int n ∧ inRange s key n = true ∧ attributes t key = [.int n] := by
  simp only [intKnobs, List.mem_cons, List.not_mem_nil, or_false] at hkey
  have hint : takes R s key v = v.toInt?.any (inRange s key) ∧
      writtenAs R s key v = [stored key v] ∧ stored key v = .int (v.toInt?.getD 0) := by
    rcases hkey with rfl | rfl | rfl | rfl <;> exact ⟨rfl, rfl, rfl⟩
  obtain ⟨htakes, hwritten, hstored⟩ := hint
  rw [htakes] at htaken
  rw [hwritten] at hattr
  cases hn : v.toInt? with
  | none =>
    rw [hn] at htaken
    cases htaken
  | some n =>
    rw [hn] at htaken hstored
    exact ⟨n, hstored, htaken, by rw [hattr, hstored]; rfl⟩

/-- A knob that is taken is in its range. -/
theorem written_of_taken {s t : Sched} {key : String} (hkey : key ∈ hotKeys) {v : Json}
    (htaken : takes R (recordCeilings s) key v = true)
    (hnan : key = "schedule_conservativeness" → v ≠ .float .nan)
    (hattr : attributes t key = writtenAs R (recordCeilings s) key v) :
    Written R s t key (stored key v) := by
  simp only [hotKeys, List.mem_cons, List.not_mem_nil, or_false] at hkey
  rcases hkey with rfl | rfl | rfl | rfl | rfl | rfl | rfl
  · obtain ⟨n, hstored, hrange, hw⟩ := int_of_taken (by decide) htaken hattr
    obtain ⟨low, high⟩ : 1 ≤ n ∧ n ≤ ceilingOf s := of_decide_eq_true hrange
    rw [hstored]
    exact .maxRunningRequests n low high (Json.int.inj (List.singleton_injective hw))
  · obtain ⟨n, hstored, hrange, hw⟩ := int_of_taken (by decide) htaken hattr
    rw [hstored]
    have hw := List.singleton_injective hw
    exact .maxQueuedRequests n (of_decide_eq_true hrange)
      (Json.intOrNull_injective hw)
  · obtain ⟨n, hstored, hrange, hw⟩ := int_of_taken (by decide) htaken hattr
    rw [hstored]
    have hw := List.singleton_injective hw
    exact .chunkedPrefillSize n (of_decide_eq_true hrange)
      (Json.intOrNull_injective hw)
  · obtain ⟨n, hstored, hrange, hw⟩ := int_of_taken (by decide) htaken hattr
    obtain ⟨low, high⟩ : 1 ≤ n ∧ n ≤ s.maxTotalNumTokens := of_decide_eq_true hrange
    rw [hstored]
    exact .maxPrefillTokens n low high (Json.int.inj (List.singleton_injective hw))
  · obtain ⟨effective, hvalid⟩ := isOk_iff.mp htaken
    obtain ⟨hname, hrest⟩ := List.cons.inj hattr
    have hpolicy := Json.str.inj (List.singleton_injective hrest)
    rw [hvalid] at hpolicy
    exact .schedulePolicy _ effective hvalid (Json.str.inj hname) hpolicy
  · rw [show takes R (recordCeilings s) "schedule_conservativeness" v =
      (!(v.num?.all PyFloat.nonpos) && v.toFloat.isOk) from rfl, Bool.and_eq_true,
      Bool.not_eq_true', isOk_iff] at htaken
    obtain ⟨hnum, x, hx⟩ := htaken
    have hstored : stored "schedule_conservativeness" v = .float x := by
      rw [stored, if_neg (by decide), if_pos rfl, hx]
      rfl
    rw [writtenAs, if_neg (by decide), if_pos rfl, hx] at hattr
    injection hattr with hcons hattr
    injection hattr with hinit hattr
    injection hattr with hmin hattr
    injection hattr with hdecay hattr
    injection hattr with hcurrent _
    rw [hstored]
    refine .scheduleConservativeness x (toFloat_pos hnum hx (hnan rfl))
      (Json.floatOrNull_injective hcons) ?_
    rw [RatioTracker.mk.injEq]
    exact ⟨Json.float.inj hinit, Json.float.inj hmin, Json.float.inj hdecay,
      Json.float.inj hcurrent⟩
  · have hw := List.singleton_injective hattr
    exact .logLevel _ (List.contains_iff_mem.mp htaken)
      (Json.strOrNull_injective hw)

theorem hot_mem {k : String} (hk : k ∈ hotKeys) : ∃ p ∈ hotKnobs R, p.1 = k := by
  rw [← hotKnobs_keys (R := R)] at hk
  exact List.mem_map.mp hk

theorem hotKnobs_nodup : ((hotKnobs R).map Prod.fst).Nodup := by
  rw [hotKnobs_keys]
  decide

theorem begin_context (request : Fields) (s : Sched) :
    Context (recordCeilings s) (begin request s) where
  bounds := ⟨rfl, rfl, rfl⟩
  ok := by simp [begin]

variable {request : Fields} {s : Sched}

theorem applyHotKnobs_run (hnone : ∀ p ∈ request.entries, isReinit p.1 = false) :
    (applyHotKnobs R).run (begin request s) =
      ((hotKnobs R).forM fun p => consume p.1 p.2).run (begin request s) := by
  rw [applyHotKnobs, EStateM.run_bind, applyReinit_none hnone]

theorem call_returns (hnone : ∀ p ∈ request.entries, isReinit p.1 = false)
    (hdecided : ∀ k ∈ hotKeys, ∀ v, request.get? k = some v →
      decides (recordCeilings s) k v = true) :
    ∃ h, (applyHotKnobs R).run (begin request s) = .ok () h ∧ Context (recordCeilings s) h ∧
      (∀ k ∈ hotKeys, Settled R (recordCeilings s) k (slot (begin request s) k) (slot h k)) ∧
      ∀ k, k ∉ hotKeys → slot h k = slot (begin request s) k := by
  obtain ⟨h, hrun, hctx, hsettled, hrest⟩ := forM_returns (rounds (recordCeilings s))
    hotKnobs_nodup (begin_context request s) fun p hp hbad => by
      obtain ⟨v, harg, hundecided⟩ := hbad
      rw [hdecided p.1 (List.mem_map.mpr ⟨p, hp, rfl⟩) v harg] at hundecided
      cases hundecided
  refine ⟨h, (applyHotKnobs_run hnone).trans hrun, hctx, fun k hk => ?_, hrest⟩
  obtain ⟨p, hp, rfl⟩ := hot_mem hk
  exact hsettled p hp

theorem call_raises (hnone : ∀ p ∈ request.entries, isReinit p.1 = false) {k : String}
    (hk : k ∈ hotKeys) {v : Json} (hv : request.get? k = some v)
    (hundecided : decides (recordCeilings s) k v = false) :
    ∃ e h, (applyHotKnobs R).run (begin request s) = .error e h := by
  obtain ⟨p, hp, rfl⟩ := hot_mem hk
  obtain ⟨e, h, hrun⟩ := forM_raises (rounds (recordCeilings s)) hotKnobs_nodup
    (begin_context request s) ⟨p, hp, v, hv, hundecided⟩
  exact ⟨e, h, (applyHotKnobs_run hnone).trans hrun⟩

/-- What the loop has settled of a knob, read off its slot. -/
theorem settled_some {old new : Slot} {k : String} {v : Json} (harg : old.arg = some v)
    (hsettled : Settled R (recordCeilings s) k old new) :
    (takes R (recordCeilings s) k v = true ∧ new.attributes = writtenAs R (recordCeilings s) k v ∧
      ∃ rest, new.messages = old.messages ++ [appliedText k rest]) ∨
    (takes R (recordCeilings s) k v = false ∧ new.attributes = old.attributes ∧
      ∃ rest, new.messages = old.messages ++ [rejectedText k rest]) := by
  cases hsettled with
  | absent none =>
    rw [harg] at none
    cases none
  | applied v' arg taken rest =>
    obtain rfl := Option.some.inj (harg.symm.trans arg)
    exact .inl ⟨taken, rfl, rest, rfl⟩
  | rejected v' arg refused rest =>
    obtain rfl := Option.some.inj (harg.symm.trans arg)
    exact .inr ⟨refused, rfl, rest, rfl⟩

theorem settled_none {old new : Slot} {k : String} (harg : old.arg = none)
    (hsettled : Settled R (recordCeilings s) k old new) : new = old := by
  cases hsettled with
  | absent => rfl
  | applied v arg =>
    rw [harg] at arg
    cases arg
  | rejected v arg =>
    rw [harg] at arg
    cases arg

theorem settled_arg {old new : Slot} {k : String}
    (hsettled : Settled R (recordCeilings s) k old new) : new.arg = none := by
  cases hsettled with
  | absent none => exact none
  | applied => rfl
  | rejected => rfl

theorem exact_of_settled {h : Handling} (hctx : Context (recordCeilings s) h)
    (hsettled : ∀ k ∈ hotKeys, Settled R (recordCeilings s) k (slot (begin request s) k) (slot h k))
    (hrest : ∀ k, k ∉ hotKeys → slot h k = slot (begin request s) k)
    (hnan : request.get? "schedule_conservativeness" ≠ some (.float .nan)) :
    Exact R request s h where
  each k hk v hv := by
    rcases settled_some hv (hsettled k hk) with ⟨htaken, hattr, hmsg⟩ | ⟨-, hattr, hmsg⟩
    · refine .inl ⟨written_of_taken hk htaken ?_ hattr, hmsg⟩
      rintro rfl rfl
      exact hnan hv
    · exact .inr ⟨hattr, hmsg⟩
  others k hk := by
    have hslot : slot h k = slot (begin request s) k := by
      by_cases hmem : k ∈ hotKeys
      · exact settled_none hk (hsettled k hmem)
      · exact hrest k hmem
    exact ⟨congrArg Slot.attributes hslot, congrArg Slot.messages hslot⟩
  bounds := hctx.bounds
  rest k := by
    by_cases hmem : k ∈ hotKeys
    · rw [if_pos hmem]
      exact settled_arg (hsettled k hmem)
    · rw [if_neg hmem]
      exact congrArg Slot.arg (hrest k hmem)
  ok := hctx.ok

/-! ### The order of the keys -/

theorem consume_congr {key : String} {handle : Json → Sched → Except PyErr Verdict}
    {h g h' : Handling} (hsame : SameOutcome h g) (hrun : (consume key handle).run h = .ok () h') :
    ∃ g', (consume key handle).run g = .ok () g' ∧ SameOutcome h' g' := by
  cases harg : h.args.get? key with
  | none =>
    rw [consume_absent harg] at hrun
    cases hrun
    exact ⟨g, consume_absent ((hsame.args key).trans harg), hsame⟩
  | some v =>
    have harg' := (hsame.args key).trans harg
    have hargs : ∀ k, (g.args.erase key).get? k = (h.args.erase key).get? k := fun k => by
      rw [Dict.get?_erase, Dict.get?_erase, hsame.args]
    cases hv : handle v h.sched with
    | error e =>
      rw [consume_raised harg hv] at hrun
      cases hrun
    | ok verdict =>
      have hv' := hv
      rw [← hsame.sched] at hv'
      cases verdict with
      | applied t text =>
        rw [consume_applied harg hv] at hrun
        cases hrun
        exact ⟨_, consume_applied harg' hv', rfl, hsame.ok, by rw [hsame.msgs], hargs⟩
      | rejected text =>
        rw [consume_rejected harg hv] at hrun
        cases hrun
        exact ⟨_, consume_rejected harg' hv', hsame.sched, rfl, by rw [hsame.msgs], hargs⟩

theorem forM_consume_congr (ps : List (String × (Json → Sched → Except PyErr Verdict)))
    {h g h' : Handling} (hsame : SameOutcome h g)
    (hrun : (ps.forM fun p => consume p.1 p.2).run h = .ok () h') :
    ∃ g', (ps.forM fun p => consume p.1 p.2).run g = .ok () g' ∧ SameOutcome h' g' := by
  induction ps generalizing h g with
  | nil =>
    cases hrun
    exact ⟨g, rfl, hsame⟩
  | cons p ps ih =>
    rw [forM_cons_run, EStateM.run_bind] at hrun
    cases hone : (consume p.1 p.2).run h with
    | error e h₁ =>
      rw [hone] at hrun
      cases hrun
    | ok u h₁ =>
      rw [hone] at hrun
      obtain ⟨g₁, hone', hsame₁⟩ := consume_congr hsame hone
      obtain ⟨g', hrun', hsame'⟩ := ih hsame₁ hrun
      refine ⟨g', ?_, hsame'⟩
      rw [forM_cons_run, EStateM.run_bind, hone']
      exact hrun'

theorem order_free (hnone : ∀ p ∈ request.entries, isReinit p.1 = false) {h : Handling}
    (hrun : (applyHotKnobs R).run (begin request s) = .ok () h) {request' : Fields}
    (hperm : request'.entries.Perm request.entries) :
    ∃ h', (applyHotKnobs R).run (begin request' s) = .ok () h' ∧ SameOutcome h h' := by
  have hnone' : ∀ p ∈ request'.entries, isReinit p.1 = false := fun p hp =>
    hnone p (hperm.mem_iff.mp hp)
  rw [applyHotKnobs_run hnone] at hrun
  rw [applyHotKnobs_run hnone']
  have hsame : SameOutcome (begin request s) (begin request' s) :=
    ⟨rfl, rfl, rfl, fun k => Dict.get?_perm hperm k⟩
  exact forM_consume_congr _ hsame hrun

theorem not_written_nan {t : Sched} :
    ¬Written R s t "schedule_conservativeness" (.float .nan) := by
  intro h
  generalize hkey : "schedule_conservativeness" = key at h
  generalize hv : Json.float .nan = v at h
  cases h with
  | scheduleConservativeness x positive =>
    cases hv
    cases positive
  | _ => cases hv

/-- `NaN` passes the guard of a conservativeness, though it is in no range. -/
theorem not_exact_nan (hnone : ∀ p ∈ request.entries, isReinit p.1 = false) {h : Handling}
    (hrun : (applyHotKnobs R).run (begin request s) = .ok () h)
    (hv : request.get? "schedule_conservativeness" = some (.float .nan)) :
    ¬Exact R request s h := by
  intro hexact
  have hdecided : ∀ k ∈ hotKeys, ∀ v, request.get? k = some v →
      decides (recordCeilings s) k v = true := by
    intro k hk v hv
    by_contra hundecided
    obtain ⟨e, h', hraise⟩ := call_raises hnone hk hv (Bool.eq_false_iff.mpr hundecided)
    rw [hrun] at hraise
    cases hraise
  obtain ⟨h', hrun', -, hsettled, -⟩ := call_returns hnone hdecided
  obtain rfl : h = h' := by
    rw [hrun] at hrun'
    injection hrun'
  have hkey : "schedule_conservativeness" ∈ hotKeys := by decide
  rcases hexact.each _ hkey _ hv with ⟨hwritten, -⟩ | ⟨-, rest, hrejected⟩
  · exact not_written_nan hwritten
  · rcases settled_some hv (hsettled _ hkey) with ⟨-, -, rest', happlied⟩ | ⟨hrefused, -⟩
    · have hsame : appliedText _ rest' = rejectedText _ rest :=
        List.singleton_injective (happlied.symm.trans hrejected)
      have hverdict := congrArg isRejection hsame
      rw [isRejection_applied, isRejection_rejected] at hverdict
      cases hverdict
    · cases hrefused

/-- The handler is total, exact and order-free on a request exactly when every knob of it has a
value that it can take. -/
theorem total_iff (hnone : ∀ p ∈ request.entries, isReinit p.1 = false) :
    Total R request s ↔ AllSound request := by
  have hceil : (recordCeilings s).ceilings.isSome := rfl
  constructor
  · rintro ⟨h, hrun, hexact, -⟩ k hk v hv
    rw [sound_iff hceil hk]
    constructor
    · by_contra hundecided
      obtain ⟨e, h', hraise⟩ := call_raises hnone hk hv (Bool.eq_false_iff.mpr hundecided)
      rw [hrun] at hraise
      cases hraise
    · rintro rfl rfl
      exact not_exact_nan hnone hrun hv hexact
  · intro hsound
    obtain ⟨h, hrun, hctx, hsettled, hrest⟩ := call_returns hnone fun k hk v hv =>
      ((sound_iff hceil hk v).mp (hsound k hk v hv)).1
    refine ⟨h, hrun, exact_of_settled hctx hsettled hrest fun hv => ?_, fun request' hperm =>
      order_free hnone hrun hperm⟩
    exact ((hsound "schedule_conservativeness" (by decide) _ hv).2 rfl).1 rfl

end Requests

end Trimtab.SglangExact
