import Trimtab.Manifest
import Trimtab.Effects

set_option autoImplicit false

/-! The code that the patch puts into vLLM: two methods of the engine core, and the lines that
open the scheduler's `schedule`. -/
namespace Trimtab.VllmScheduler
open PyText Effects

/-- The dict `_trimtab_ceilings`, which has these two keys. -/
structure Ceilings where
  maxNumSeqs : Int
  maxNumBatchedTokens : Int
  deriving DecidableEq

def Ceilings.get? (c : Ceilings) (key : String) : Option Int :=
  if key = "max_num_seqs" then some c.maxNumSeqs
  else if key = "max_num_batched_tokens" then some c.maxNumBatchedTokens
  else none

structure Sched where
  running : Nat
  maxNumRunningReqs : Int
  maxNumScheduledTokens : Int
  longPrefillTokenThreshold : Int
  logLevel : Option String
  ceilings : Option Ceilings
  pendingMaxNumSeqs : Option Int
  deriving DecidableEq

/-- A call of `trimtab_set_knobs`: the scheduler, and the two dicts it fills. -/
structure Handling where
  sched : Sched
  applied : Dict String Json
  rejected : Dict String String
  deriving DecidableEq

abbrev HandlerM := EStateM PyErr Handling

def reject (key text : String) : HandlerM Unit :=
  modify fun h => { h with rejected := h.rejected.insert key text }

def applyKnob (key : String) (value : Json) (write : Sched → Sched) : HandlerM Unit :=
  modify fun h => { h with sched := write h.sched, applied := h.applied.insert key value }

def ceilingsOf (s : Sched) : Ceilings :=
  s.ceilings.getD ⟨s.maxNumRunningReqs, s.maxNumScheduledTokens⟩

def recordCeilings (s : Sched) : Sched := { s with ceilings := some (ceilingsOf s) }

/-- `max_num_seqs = target`: a cap below the occupancy stops admissions and waits for it to fall. -/
def setMaxNumSeqs (target : Int) (s : Sched) : Sched :=
  { s with pendingMaxNumSeqs := some target, maxNumRunningReqs := max target s.running }

/-- One round of the loop over the knobs of a request. -/
def handleKnob (key : String) (value : Json) : HandlerM Unit := do
  if key = "long_prefill_token_threshold" then
    match value.num? with
    | none => reject key "must be >= 0 (0 disables the threshold)"
    | some x =>
      let n ← ofExcept x.toInt
      if n < 0 then reject key "must be >= 0 (0 disables the threshold)"
      else applyKnob key (.int n) fun s => { s with longPrefillTokenThreshold := n }
  else if key = "log_level" then
    let level := upper value.pyStr
    if !(["DEBUG", "INFO", "WARNING", "ERROR"].contains level) then
      reject key "must be DEBUG, INFO, WARNING or ERROR"
    else applyKnob key (.str level) fun s => { s with logLevel := some level }
  else
    match (← get).sched.ceilings.bind fun c => c.get? key with
    | none => reject key "unknown knob"
    | some ceiling =>
      let range := "valid range is 1.." ++ toString ceiling ++ " (the boot allocation)"
      match value.num? with
      | none => reject key range
      | some x =>
        let n ← ofExcept x.toInt
        if ¬(1 ≤ n ∧ n ≤ ceiling) then reject key range
        else if key = "max_num_seqs" then applyKnob key (.int n) (setMaxNumSeqs n)
        else applyKnob key (.int n) fun s => { s with maxNumScheduledTokens := n }

structure KnobReply where
  ok : Bool
  applied : Dict String Json
  rejected : Dict String String
  deriving DecidableEq

/-- A knob that raises (`int` of an infinity) ends the call; the knobs before it stay written. -/
def trimtabSetKnobs (knobs : Fields) : HandlerM KnobReply := do
  knobs.entries.forM fun p => handleKnob p.1 p.2
  let h ← get
  return ⟨h.rejected.entries.isEmpty, h.applied, h.rejected⟩

def begin (s : Sched) : Handling := ⟨recordCeilings s, ∅, ∅⟩

def handled (knobs : Fields) (s : Sched) : Handling := final (trimtabSetKnobs knobs) (begin s)

structure Readout where
  maxNumSeqs : Int
  maxNumSeqsEffective : Int
  maxNumBatchedTokens : Int
  longPrefillTokenThreshold : Int
  logLevel : Option String
  running : Nat
  ceilings : Option Ceilings
  deriving DecidableEq

def trimtabGetKnobs (s : Sched) : Readout where
  maxNumSeqs := s.pendingMaxNumSeqs.getD s.maxNumRunningReqs
  maxNumSeqsEffective := s.maxNumRunningReqs
  maxNumBatchedTokens := s.maxNumScheduledTokens
  longPrefillTokenThreshold := s.longPrefillTokenThreshold
  logLevel := s.logLevel
  running := s.running
  ceilings := s.ceilings

/-- The lines before the stock body of `schedule`. -/
def schedulePrologue (s : Sched) : Sched :=
  match s.pendingMaxNumSeqs with
  | none => s
  | some pending =>
    { s with
      maxNumRunningReqs := max pending s.running
      pendingMaxNumSeqs := if (s.running : Int) ≤ pending then none else some pending }

/-! ## What a request does to the cap -/

/-- The target for `max_num_seqs` that the call has noted as applied. -/
def Handling.target (h : Handling) : Option Int :=
  match h.applied.get? "max_num_seqs" with
  | some (.int t) => some t
  | _ => none

structure CapHandled (s : Sched) (h : Handling) : Prop where
  running : h.sched.running = s.running
  ceilings : h.sched.ceilings = some (ceilingsOf s)
  untouched : h.target = none →
    h.sched.maxNumRunningReqs = s.maxNumRunningReqs ∧ h.sched.pendingMaxNumSeqs = s.pendingMaxNumSeqs
  retargeted : ∀ t, h.target = some t →
    (1 ≤ t ∧ t ≤ (ceilingsOf s).maxNumSeqs) ∧
      h.sched.maxNumRunningReqs = max t s.running ∧ h.sched.pendingMaxNumSeqs = some t

theorem capHandled_begin (s : Sched) : CapHandled s (begin s) where
  running := rfl
  ceilings := rfl
  untouched _ := ⟨rfl, rfl⟩
  retargeted t h := by cases h

theorem capHandled_reject {s : Sched} {h : Handling} (hc : CapHandled s h) (key text : String) :
    CapHandled s (final (reject key text) h) :=
  ⟨hc.running, hc.ceilings, hc.untouched, hc.retargeted⟩

/-- A knob other than the cap's leaves the cap alone. -/
theorem capHandled_apply {s : Sched} {h : Handling} (hc : CapHandled s h) {key : String}
    (hkey : key ≠ "max_num_seqs") (value : Json) {write : Sched → Sched}
    (hrun : ∀ s, (write s).running = s.running) (hceil : ∀ s, (write s).ceilings = s.ceilings)
    (hcap : ∀ s, (write s).maxNumRunningReqs = s.maxNumRunningReqs)
    (hpend : ∀ s, (write s).pendingMaxNumSeqs = s.pendingMaxNumSeqs) :
    CapHandled s (final (applyKnob key value write) h) := by
  have ht : (final (applyKnob key value write) h).target = h.target := by
    unfold Handling.target
    change (match (h.applied.insert key value).get? "max_num_seqs" with
      | some (.int t) => some t
      | _ => none) = _
    rw [Dict.get?_insert_of_ne _ _ (Ne.symm hkey)]
  exact ⟨(hrun _).trans hc.running, (hceil _).trans hc.ceilings,
    fun hn => ⟨(hcap _).trans (hc.untouched (ht ▸ hn)).1, (hpend _).trans (hc.untouched (ht ▸ hn)).2⟩,
    fun t hs => ⟨(hc.retargeted t (ht ▸ hs)).1, (hcap _).trans (hc.retargeted t (ht ▸ hs)).2.1,
      (hpend _).trans (hc.retargeted t (ht ▸ hs)).2.2⟩⟩

theorem capHandled_retarget {s : Sched} {h : Handling} (hc : CapHandled s h) {n ceiling : Int}
    (hceil : (h.sched.ceilings.bind fun c => c.get? "max_num_seqs") = some ceiling)
    (hrange : 1 ≤ n ∧ n ≤ ceiling) :
    CapHandled s (final (applyKnob "max_num_seqs" (.int n) (setMaxNumSeqs n)) h) := by
  have ht : (final (applyKnob "max_num_seqs" (.int n) (setMaxNumSeqs n)) h).target = some n := by
    unfold Handling.target
    change (match (h.applied.insert "max_num_seqs" (.int n)).get? "max_num_seqs" with
      | some (.int t) => some t
      | _ => none) = _
    rw [Dict.get?_insert_self]
  rw [hc.ceilings] at hceil
  cases hceil
  refine ⟨hc.running, hc.ceilings, fun hn => ?_, fun t hs => ?_⟩
  · rw [ht] at hn
    cases hn
  · rw [ht] at hs
    cases hs
    exact ⟨hrange, by rw [← hc.running]; rfl, rfl⟩

theorem capHandled_handleKnob {s : Sched} {h : Handling} (hc : CapHandled s h) (key : String)
    (value : Json) : CapHandled s (final (handleKnob key value) h) := by
  unfold handleKnob
  by_cases hprefill : key = "long_prefill_token_threshold"
  · simp only [hprefill, if_true]
    cases value.num? with
    | none => exact capHandled_reject hc _ _
    | some x =>
      simp only [final_ofExcept_bind]
      cases x.toInt with
      | error e => exact hc
      | ok n =>
        dsimp only
        split_ifs
        · exact capHandled_reject hc _ _
        · exact capHandled_apply hc (by decide) _ (fun _ => rfl) (fun _ => rfl) (fun _ => rfl)
            fun _ => rfl
  by_cases hlevel : key = "log_level"
  · simp only [hlevel, if_true]
    split_ifs
    · exact absurd ‹_› (by decide)
    · exact capHandled_reject hc _ _
    · exact capHandled_apply hc (by decide) _ (fun _ => rfl) (fun _ => rfl) (fun _ => rfl)
        fun _ => rfl
  simp only [hprefill, hlevel, if_false]
  rw [final_bind, EStateM.run_get]
  dsimp only
  cases hceil : h.sched.ceilings.bind fun c => c.get? key with
  | none => exact capHandled_reject hc _ _
  | some ceiling =>
    cases value.num? with
    | none => exact capHandled_reject hc _ _
    | some x =>
      simp only [final_ofExcept_bind]
      cases x.toInt with
      | error e => exact hc
      | ok n =>
        dsimp only
        split_ifs with hrange hkey
        · subst hkey
          exact capHandled_retarget hc hceil hrange
        · exact capHandled_apply hc hkey _ (fun _ => rfl) (fun _ => rfl) (fun _ => rfl) fun _ => rfl
        · exact capHandled_reject hc _ _

theorem capHandled_handled (knobs : Fields) (s : Sched) : CapHandled s (handled knobs s) := by
  let R (h h' : Handling) : Prop := CapHandled s h → CapHandled s h'
  have hround : ∀ p : String × Json, Respects R (handleKnob p.1 p.2) :=
    fun p _ hc => capHandled_handleKnob hc p.1 p.2
  have hloop : Respects R (trimtabSetKnobs knobs) :=
    respects_bind (fun _ _ _ h h' hc => h' (h hc))
      (respects_forM (fun _ hc => hc) (fun _ _ _ h h' hc => h' (h hc)) hround knobs.entries)
      fun _ _ hc => hc
  exact hloop (begin s) (capHandled_begin s)

end Trimtab.VllmScheduler
