import Trimtab.KeyedLoop
import Trimtab.MockEngine
import Trimtab.VllmEngine

set_option autoImplicit false

/-! What the stand-in for vLLM makes of each key of a request. -/
namespace Trimtab.MockEngine
open PyText Effects VllmScheduler VllmEngine KeyedLoop
open SglangScheduler (isReinit)

def levels : List String := ["DEBUG", "INFO", "WARNING", "ERROR"]

def vllmKnobs : List String :=
  ["max_num_seqs", "max_num_batched_tokens", "long_prefill_token_threshold", "log_level"]

def ceilingDict (c : Ceilings) : Dict String Int :=
  Dict.ofList [("max_num_seqs", c.maxNumSeqs), ("max_num_batched_tokens", c.maxNumBatchedTokens)]

def accepts (c : Ceilings) (key : String) (value : Json) : Bool :=
  if key = "long_prefill_token_threshold" then (intOf value).any (0 ≤ ·)
  else if key = "log_level" then (levels.map lower).contains (lower value.pyStr)
  else match c.get? key with
    | none => false
    | some ceiling => (intOf value).any fun n => 1 ≤ n ∧ n ≤ ceiling

structure Slot where
  knob : Option Json
  applied : Option Json
  rejected : Option String

def slot (c : Call) (key : String) : Slot :=
  ⟨c.state.knobs.get? key, c.applied.get? key, c.rejected.get? key⟩

def Settled (c : Ceilings) (key : String) (value : Json) (old new : Slot) : Prop :=
  if accepts c key value then
    new = { old with knob := some (stored key value), applied := some (stored key value) }
  else ∃ text, new = { old with rejected := some text }

/-- Of a call: it is of the stand-in for vLLM, with the ceilings `c`. -/
structure Context (c : Ceilings) (call : Call) : Prop where
  engine : call.state.engine = "vllm"
  ceilings : call.state.ceilings = ceilingDict c
  knobs : ∀ k, call.state.knobs.contains k = vllmKnobs.contains k

section Rounds

variable {c : Ceilings} {call : Call} {key : String} {value : Json}

theorem ceilingDict_get? (c : Ceilings) (key : String) : (ceilingDict c).get? key = c.get? key := by
  unfold ceilingDict Ceilings.get? Dict.ofList
  simp only [List.foldl_cons, List.foldl_nil, Dict.get?_insert, Dict.get?_empty]
  by_cases hseqs : key = "max_num_seqs"
  · subst hseqs
    rfl
  · simp only [hseqs, if_false]

def RoundOf (c : Ceilings) (key : String) (value : Json) (call : Call) : Prop :=
  ∃ t, (handle key value).run call = .ok () t ∧ Context c t ∧
    Settled c key value (slot call key) (slot t key) ∧ ∀ k, k ≠ key → slot t k = slot call k

theorem round_reject (hctx : Context c call) (ha : accepts c key value = false) (text : String)
    (hrun : (handle key value).run call = (reject key text).run call) : RoundOf c key value call := by
  refine ⟨_, hrun.trans rfl, ⟨hctx.engine, hctx.ceilings, hctx.knobs⟩, ?_, fun k hk => ?_⟩
  · rw [Settled, ha]
    exact ⟨text, congrArg (Slot.mk _ _) (Dict.get?_insert_self ..)⟩
  · exact congrArg (Slot.mk _ _) (Dict.get?_insert_of_ne _ _ hk)

theorem round_write (hctx : Context c call) (ha : accepts c key value = true)
    (hkey : vllmKnobs.contains key = true)
    (hrun : (handle key value).run call = (write key (stored key value)).run call) :
    RoundOf c key value call := by
  refine ⟨_, hrun.trans rfl, ⟨hctx.engine, hctx.ceilings, fun k => ?_⟩, ?_, fun k hk => ?_⟩
  · change ((call.state.knobs.insert key _).get? k).isSome = _
    rw [← hctx.knobs, Dict.get?_insert]
    split_ifs with hk
    · rw [hk, hctx.knobs, hkey]
      rfl
    · rfl
  · rw [Settled, if_pos ha]
    have hknob : (call.state.knobs.insert key (stored key value)).get? key = some (stored key value) :=
      Dict.get?_insert_self ..
    have happlied : (call.applied.insert key (stored key value)).get? key = some (stored key value) :=
      Dict.get?_insert_self ..
    change Slot.mk _ _ _ = _
    rw [hknob, happlied]
    rfl
  · have hknob : (call.state.knobs.insert key (stored key value)).get? k = call.state.knobs.get? k :=
      Dict.get?_insert_of_ne _ _ hk
    have happlied : (call.applied.insert key (stored key value)).get? k = call.applied.get? k :=
      Dict.get?_insert_of_ne _ _ hk
    change Slot.mk _ _ _ = _
    rw [hknob, happlied]
    rfl

theorem handle_unknown (hctx : Context c call) (hkey : vllmKnobs.contains key = false) :
    RoundOf c key value call := by
  have hcontains : call.state.knobs.contains key = false := (hctx.knobs key).trans hkey
  have ha : accepts c key value = false := by
    simp only [vllmKnobs, List.contains_eq_mem, List.mem_cons, List.not_mem_nil, or_false,
      decide_eq_false_iff_not, not_or] at hkey
    simp only [accepts, hkey, if_false, Ceilings.get?]
  refine round_reject hctx ha "unknown knob" ?_
  unfold handle
  simp only [EStateM.run_bind, EStateM.run_get, hcontains, Bool.not_false, if_true]

theorem handle_level (hctx : Context c call) : RoundOf c "log_level" value call := by
  have hcontains : call.state.knobs.contains "log_level" = true := hctx.knobs "log_level"
  have hstored : stored "log_level" value = .str (upper value.pyStr) := rfl
  have hin : accepts c "log_level" value = (levels.map lower).contains (lower value.pyStr) := rfl
  have hchoices : strChoices "log_level" = some levels := rfl
  cases hlevel : (levels.map lower).contains (lower value.pyStr) with
  | false =>
    refine round_reject hctx (hin.trans hlevel) ("must be one of " ++ reprTuple levels) ?_
    unfold handle
    simp only [EStateM.run_bind, EStateM.run_get, hcontains, Bool.not_true, Bool.false_eq_true,
      if_false, hchoices, hlevel, Bool.not_false, if_true]
  | true =>
    refine round_write hctx (hin.trans hlevel) rfl ?_
    unfold handle
    simp only [EStateM.run_bind, EStateM.run_get, hcontains, Bool.not_true, Bool.false_eq_true,
      if_false, hchoices, hlevel, if_true, hstored]

/-- A knob that goes through `int`. -/
theorem handle_int (hctx : Context c call) (hkey : vllmKnobs.contains key = true)
    (hlevel : key ≠ "log_level") (hv : VllmEngine.Finite value) : RoundOf c key value call := by
  have hcontains : call.state.knobs.contains key = true := (hctx.knobs key).trans hkey
  have hstored : ∀ n, intOf value = some n → stored key value = .int n := fun n hn => by
    rw [stored, if_neg hlevel, hn]
    rfl
  have hceil : call.state.ceilings.get? key = c.get? key := by
    rw [hctx.ceilings, ceilingDict_get?]
  have hplain : strChoices key = none ∧ key ≠ "schedule_conservativeness" := by
    simp only [vllmKnobs, List.contains_eq_mem, List.mem_cons, List.not_mem_nil, or_false,
      decide_eq_true_eq] at hkey
    rcases hkey with rfl | rfl | rfl | rfl
    · exact ⟨rfl, by decide⟩
    · exact ⟨rfl, by decide⟩
    · exact ⟨rfl, by decide⟩
    · exact absurd rfl hlevel
  have htest : accepts c key value = (intOf value).any fun n =>
      decide (low key ≤ n) && !((c.get? key).any (· < n)) := by
    simp only [vllmKnobs, List.contains_eq_mem, List.mem_cons, List.not_mem_nil, or_false,
      decide_eq_true_eq] at hkey
    have hrange (ceiling n : Int) : decide (1 ≤ n ∧ n ≤ ceiling) =
        (decide (1 ≤ n) && !decide (ceiling < n)) := by
      simp only [Bool.decide_and, ← decide_not, Int.not_lt]
    rcases hkey with rfl | rfl | rfl | rfl
    · exact congrArg (intOf value).any (funext (hrange c.maxNumSeqs))
    · exact congrArg (intOf value).any (funext (hrange c.maxNumBatchedTokens))
    · exact congrArg (intOf value).any (funext fun n => (Bool.and_true _).symm)
    · exact absurd rfl hlevel
  cases hn : value.num? with
  | none =>
    have ha : accepts c key value = false := by
      rw [htest, intOf, hn]
      rfl
    refine round_reject hctx ha ("valid range is " ++ toString (low key) ++ ".." ++
      showHigh (c.get? key)) ?_
    unfold handle
    simp only [EStateM.run_bind, EStateM.run_get, hcontains, Bool.not_true, Bool.false_eq_true,
      if_false, hplain, hceil, hn]
  | some x =>
    obtain ⟨n, hx⟩ := hv x hn
    have hint := intOf_eq hn hx
    rw [hint, Option.any_some] at htest
    by_cases hout : n < low key ∨ (c.get? key).any (· < n) = true
    · have ha : accepts c key value = false := by
        rw [htest]
        rcases hout with hlow | hhigh
        · simp [Int.not_le.mpr hlow]
        · simp [hhigh]
      refine round_reject hctx ha ("valid range is " ++ toString (low key) ++ ".." ++
        showHigh (c.get? key)) ?_
      unfold handle
      simp only [EStateM.run_bind, EStateM.run_get, hcontains, Bool.not_true, Bool.false_eq_true,
        if_false, hplain, hceil, hn, ofExcept_run, hx, hout, if_true]
    · have ha : accepts c key value = true := by
        rw [not_or, Int.not_lt, Bool.not_eq_true] at hout
        rw [htest, hout.2, decide_eq_true hout.1]
        rfl
      refine round_write hctx ha hkey ?_
      unfold handle
      simp only [EStateM.run_bind, EStateM.run_get, hcontains, Bool.not_true, Bool.false_eq_true,
        if_false, hplain, hceil, hn, ofExcept_run, hx, hout, hstored n hint]

theorem handle_round (hctx : Context c call) (hv : VllmEngine.Finite value) :
    RoundOf c key value call := by
  cases hkey : vllmKnobs.contains key with
  | false => exact handle_unknown hctx hkey
  | true =>
    by_cases hlevel : key = "log_level"
    · subst hlevel
      exact handle_level hctx
    · exact handle_int hctx hkey hlevel hv

end Rounds

theorem rounds (c : Ceilings) (items : List (String × Json))
    (hfin : ∀ p ∈ items, VllmEngine.Finite p.2) :
    Rounds (Context c) slot (fun _ _ _ => False) (Settled c) handle items where
  raises _ _ _ _ hbad := hbad.elim
  returns p hp _ hctx _ := handle_round hctx (hfin p hp)

end Trimtab.MockEngine
