import Trimtab.KeyedLoop
import Trimtab.VllmEngine

set_option autoImplicit false

/-! What vLLM's handler makes of each key of a request, and that no other key has a part in it. -/
namespace Trimtab.VllmExact
open PyText Effects VllmScheduler VllmEngine KeyedLoop

def intKnobs : List String :=
  ["long_prefill_token_threshold", "max_num_seqs", "max_num_batched_tokens"]

def attributes (s : Sched) (key : String) : List Json :=
  if key = "long_prefill_token_threshold" then [.int s.longPrefillTokenThreshold]
  else if key = "log_level" then [(s.logLevel.map Json.str).getD .null]
  else if key = "max_num_seqs" then
    [(s.pendingMaxNumSeqs.map Json.int).getD .null, .int s.maxNumRunningReqs]
  else if key = "max_num_batched_tokens" then [.int s.maxNumScheduledTokens]
  else []

/-- What a call shows of a key: the knob's attributes, and the two dicts of the reply. -/
structure Slot where
  attributes : List Json
  applied : Option Json
  rejected : Option String

def slot (h : Handling) (key : String) : Slot :=
  ⟨attributes h.sched key, h.applied.get? key, h.rejected.get? key⟩

/-- The value that the handler writes for a knob, or the text of its refusal. -/
def verdict (c : Ceilings) (key : String) (value : Json) : Except String Json :=
  if key = "long_prefill_token_threshold" then
    match intOf value with
    | some n => if n < 0 then .error "must be >= 0 (0 disables the threshold)" else .ok (.int n)
    | none => .error "must be >= 0 (0 disables the threshold)"
  else if key = "log_level" then
    if ["DEBUG", "INFO", "WARNING", "ERROR"].contains (upper value.pyStr) then
      .ok (.str (upper value.pyStr))
    else .error "must be DEBUG, INFO, WARNING or ERROR"
  else
    match c.get? key with
    | none => .error "unknown knob"
    | some ceiling =>
      let range := "valid range is 1.." ++ toString ceiling ++ " (the boot allocation)"
      match intOf value with
      | some n => if 1 ≤ n ∧ n ≤ ceiling then .ok (.int n) else .error range
      | none => .error range

def writtenAs (running : Nat) (key : String) (w : Json) : List Json :=
  if key = "max_num_seqs" then [w, .int (max ((intOf w).getD 0) running)] else [w]

def settle (c : Ceilings) (running : Nat) (key : String) (value : Json) (old : Slot) : Slot :=
  match verdict c key value with
  | .ok w => ⟨writtenAs running key w, some w, old.rejected⟩
  | .error text => { old with rejected := some text }

def Context (c : Ceilings) (running : Nat) (h : Handling) : Prop :=
  h.sched.ceilings = some c ∧ h.sched.running = running

def Bad (key : String) (value : Json) (_ : Slot) : Prop := key ∈ intKnobs ∧ ¬VllmEngine.Finite value

theorem slot_reject (h : Handling) (key text k : String) :
    slot (final (reject key text) h) k =
      if k = key then { slot h k with rejected := some text } else slot h k := by
  by_cases hk : k = key
  · subst hk
    rw [if_pos rfl]
    exact congrArg (Slot.mk _ _) (Dict.get?_insert_self ..)
  · rw [if_neg hk]
    exact congrArg (Slot.mk _ _) (Dict.get?_insert_of_ne _ _ hk)

theorem slot_apply {h : Handling} {key : String} {w : Json} {write : Sched → Sched}
    {written : List Json} (hwrite : ∀ k, attributes (write h.sched) k =
      if k = key then written else attributes h.sched k) (k : String) :
    slot (final (applyKnob key w write) h) k =
      if k = key then ⟨written, some w, (slot h k).rejected⟩ else slot h k := by
  have happlied : (final (applyKnob key w write) h).applied.get? k =
      if k = key then some w else h.applied.get? k := Dict.get?_insert ..
  have hsched : attributes (final (applyKnob key w write) h).sched k =
      if k = key then written else attributes h.sched k := hwrite k
  rw [slot, happlied, hsched]
  by_cases hk : k = key
  · simp only [hk, if_true]
    rfl
  · simp only [hk, if_false]
    rfl

/-- A round that returns settles the slot of its key, and no other. -/
structure Round (c : Ceilings) (running : Nat) (key : String) (value : Json) (h h' : Handling) :
    Prop where
  context : Context c running h'
  slots : ∀ k, slot h' k = if k = key then settle c running key value (slot h k) else slot h k

section Rounds

variable {c : Ceilings} {running : Nat} {h : Handling} {key : String} {value : Json}

theorem round_reject (hctx : Context c running h) {text : String}
    (hv : verdict c key value = .error text) :
    Round c running key value h (final (reject key text) h) := by
  refine ⟨hctx, fun k => ?_⟩
  rw [slot_reject]
  simp only [settle, hv]

theorem round_apply (hctx : Context c running h) {w : Json} (hv : verdict c key value = .ok w)
    {write : Sched → Sched} (hceil : (write h.sched).ceilings = h.sched.ceilings)
    (hrunning : (write h.sched).running = h.sched.running)
    (hwrite : ∀ k, attributes (write h.sched) k =
      if k = key then writtenAs running key w else attributes h.sched k) :
    Round c running key value h (final (applyKnob key w write) h) := by
  refine ⟨⟨hceil.trans hctx.1, hrunning.trans hctx.2⟩, fun k => ?_⟩
  rw [slot_apply hwrite]
  simp only [settle, hv]

theorem attributes_prefill (s : Sched) (n : Int) (k : String) :
    attributes { s with longPrefillTokenThreshold := n } k =
      if k = "long_prefill_token_threshold" then [.int n] else attributes s k := by
  unfold attributes
  by_cases hk : k = "long_prefill_token_threshold" <;> simp only [hk, if_true, if_false]

theorem attributes_logLevel (s : Sched) (level : String) (k : String) :
    attributes { s with logLevel := some level } k =
      if k = "log_level" then [.str level] else attributes s k := by
  unfold attributes
  by_cases hk : k = "log_level" <;> simp only [hk, if_true, if_false]
  rfl

theorem attributes_batched (s : Sched) (n : Int) (k : String) :
    attributes { s with maxNumScheduledTokens := n } k =
      if k = "max_num_batched_tokens" then [.int n] else attributes s k := by
  unfold attributes
  by_cases hk : k = "max_num_batched_tokens" <;> simp only [hk, if_true, if_false]
  rfl

theorem attributes_seqs (s : Sched) (n : Int) (k : String) :
    attributes (setMaxNumSeqs n s) k =
      if k = "max_num_seqs" then [.int n, .int (max n s.running)] else attributes s k := by
  unfold attributes
  by_cases hk : k = "max_num_seqs"
  · subst hk
    rfl
  · simp only [hk, if_false]
    rfl

theorem handleKnob_round (hctx : Context c running h) (hgood : ¬Bad key value (slot h key)) :
    ∃ h', (handleKnob key value).run h = .ok () h' ∧ Round c running key value h h' := by
  have hfinite : ∀ x, key ∈ intKnobs → value.num? = some x → ∃ n, x.toInt = .ok n ∧
      intOf value = some n := fun x hk hx => by
    obtain ⟨n, hn⟩ := Classical.byContradiction (fun hno => hgood ⟨hk, hno⟩) x hx
    exact ⟨n, hn, intOf_eq hx hn⟩
  unfold handleKnob
  by_cases hprefill : key = "long_prefill_token_threshold"
  · subst hprefill
    simp only [if_true]
    cases hn : value.num? with
    | none => exact ⟨_, rfl, round_reject hctx (by simp [verdict, intOf, hn])⟩
    | some x =>
      obtain ⟨n, hx, hint⟩ := hfinite x (by decide) hn
      simp only [EStateM.run_bind, ofExcept_run, hx]
      by_cases hlt : n < 0
      · simp only [hlt, if_true]
        exact ⟨_, rfl, round_reject hctx (by simp [verdict, hint, hlt])⟩
      · simp only [hlt, if_false]
        refine ⟨_, applyKnob_run _ _ _ h, round_apply hctx (by simp [verdict, hint, hlt]) rfl rfl
          fun k => ?_⟩
        rw [attributes_prefill]
        rfl
  by_cases hlevel : key = "log_level"
  · subst hlevel
    simp only [hprefill, if_false, if_true]
    cases hin : ["DEBUG", "INFO", "WARNING", "ERROR"].contains (upper value.pyStr) with
    | false =>
      simp only [Bool.not_false, if_true]
      refine ⟨_, rfl, round_reject hctx ?_⟩
      simp only [verdict, hprefill, if_false, if_true, hin, Bool.false_eq_true]
    | true =>
      simp only [Bool.not_true, Bool.false_eq_true, if_false]
      refine ⟨_, applyKnob_run _ _ _ h, round_apply hctx ?_ rfl rfl fun k => ?_⟩
      · simp only [verdict, hprefill, if_false, if_true, hin]
      · rw [attributes_logLevel]
        rfl
  simp only [hprefill, hlevel, if_false, EStateM.run_bind, EStateM.run_get, hctx.1, Option.bind_some]
  cases hceil : c.get? key with
  | none =>
    refine ⟨_, rfl, round_reject hctx ?_⟩
    simp only [verdict, hprefill, hlevel, if_false, hceil]
  | some ceiling =>
    have hknob : key = "max_num_seqs" ∨ key = "max_num_batched_tokens" := by
      by_contra hne
      rw [not_or] at hne
      simp [Ceilings.get?, hne.1, hne.2] at hceil
    have hmem : key ∈ intKnobs := by
      rcases hknob with rfl | rfl <;> decide
    cases hn : value.num? with
    | none =>
      refine ⟨_, rfl, round_reject hctx ?_⟩
      simp only [verdict, hprefill, hlevel, if_false, hceil, intOf, hn]
    | some x =>
      obtain ⟨n, hx, hint⟩ := hfinite x hmem hn
      simp only [EStateM.run_bind, ofExcept_run, hx]
      by_cases hrange : 1 ≤ n ∧ n ≤ ceiling
      · have hv : verdict c key value = .ok (.int n) := by
          simp only [verdict, hprefill, hlevel, if_false, hceil, hint, hrange, and_self, if_true]
        have hintn : intOf (.int n) = some n := intOf_eq rfl (PyFloat.toInt_intCast n)
        simp only [hrange, and_self, not_true_eq_false, if_false]
        by_cases hseqs : key = "max_num_seqs"
        · simp only [hseqs, if_true] at hv ⊢
          refine ⟨_, applyKnob_run _ _ _ h, round_apply hctx hv rfl rfl fun k => ?_⟩
          rw [attributes_seqs, hctx.2]
          simp only [writtenAs, if_true, hintn, Option.getD_some]
        · have hbatched := hknob.resolve_left hseqs
          simp only [hseqs, if_false]
          refine ⟨_, applyKnob_run _ _ _ h, round_apply hctx hv rfl rfl fun k => ?_⟩
          rw [attributes_batched, hbatched]
          rfl
      · simp only [hrange, not_false_eq_true, if_true]
        refine ⟨_, rfl, round_reject hctx ?_⟩
        simp only [verdict, hprefill, hlevel, if_false, hceil, hint, hrange]

/-- `int` of a value that is not finite raises. -/
theorem handleKnob_raises (hctx : Context c running h) (hbad : Bad key value (slot h key)) :
    ∃ e h', (handleKnob key value).run h = .error e h' := by
  obtain ⟨hmem, hinf⟩ := hbad
  obtain ⟨x, hx, hno⟩ : ∃ x, value.num? = some x ∧ ∀ n, x.toInt ≠ .ok n := by
    simpa only [VllmEngine.Finite, not_forall, not_exists, exists_prop] using hinf
  obtain ⟨e, he⟩ : ∃ e, x.toInt = .error e := by
    cases hint : x.toInt with
    | ok n => exact absurd hint (hno n)
    | error e => exact ⟨e, rfl⟩
  have hceiling : ∀ ceiling, c.get? key = some ceiling → key ≠ "long_prefill_token_threshold" →
      key ≠ "log_level" → (handleKnob key value).run h = .error e h := by
    intro ceiling hceil hprefill hlevel
    unfold handleKnob
    simp only [hprefill, hlevel, if_false, EStateM.run_bind, EStateM.run_get, hctx.1,
      Option.bind_some, hceil, hx, ofExcept_run, he]
  simp only [intKnobs, List.mem_cons, List.not_mem_nil, or_false] at hmem
  refine ⟨e, h, ?_⟩
  rcases hmem with rfl | rfl | rfl
  · unfold handleKnob
    simp only [if_true, hx, EStateM.run_bind, ofExcept_run, he]
  · exact hceiling c.maxNumSeqs rfl (by decide) (by decide)
  · exact hceiling c.maxNumBatchedTokens rfl (by decide) (by decide)

end Rounds

theorem rounds (c : Ceilings) (running : Nat) (items : List (String × Json)) :
    Rounds (Context c running) slot Bad
      (fun key value old new => new = settle c running key value old) handleKnob items where
  raises p _ h hctx hbad := handleKnob_raises hctx hbad
  returns p _ h hctx hgood := by
    obtain ⟨h', hrun, hround⟩ := handleKnob_round hctx hgood
    refine ⟨h', hrun, hround.context, ?_, fun k hk => ?_⟩
    · rw [hround.slots, if_pos rfl]
    · rw [hround.slots, if_neg hk]

/-! ## A whole request -/

/-- No value that goes through `int` is an infinity or `NaN`. -/
def AllFinite (request : Fields) : Prop :=
  ∀ k ∈ intKnobs, ∀ x, request.get? k = some (.float x) → ∃ q, x = .fin q

inductive Written (s t : Sched) : String → Json → Prop where
  | prefill (n : Int) (nonneg : 0 ≤ n) (written : t.longPrefillTokenThreshold = n) :
      Written s t "long_prefill_token_threshold" (.int n)
  | logLevel (level : String) (known : level ∈ ["DEBUG", "INFO", "WARNING", "ERROR"])
      (written : t.logLevel = some level) : Written s t "log_level" (.str level)
  | seqs (n : Int) (low : 1 ≤ n) (high : n ≤ (ceilingsOf s).maxNumSeqs)
      (written : t.pendingMaxNumSeqs = some n) (effective : t.maxNumRunningReqs = max n s.running) :
      Written s t "max_num_seqs" (.int n)
  | batched (n : Int) (low : 1 ≤ n) (high : n ≤ (ceilingsOf s).maxNumBatchedTokens)
      (written : t.maxNumScheduledTokens = n) : Written s t "max_num_batched_tokens" (.int n)

/-- What a request gets: each of its keys is written or refused, and no other key is touched. -/
structure Exact (request : Fields) (s : Sched) (reply : KnobReply) (t : Sched) : Prop where
  each : ∀ k v, request.get? k = some v →
    (Written s t k (stored k v) ∧ reply.applied.get? k = some (stored k v) ∧
      reply.rejected.get? k = none) ∨
    ∃ text, reply.rejected.get? k = some text ∧ reply.applied.get? k = none ∧
      attributes t k = attributes s k
  others : ∀ k, request.get? k = none → reply.applied.get? k = none ∧
    reply.rejected.get? k = none ∧ attributes t k = attributes s k
  ok : reply.ok = true ↔ ∀ k, reply.rejected.get? k = none

structure SameOutcome (reply reply' : KnobReply) (t t' : Sched) : Prop where
  sched : t' = t
  ok : reply'.ok = reply.ok
  applied : ∀ k, reply'.applied.get? k = reply.applied.get? k
  rejected : ∀ k, reply'.rejected.get? k = reply.rejected.get? k

/-- The handler returns, is exact for each key, and does not heed the order of the keys. -/
def Total (request : Fields) (s : Sched) : Prop :=
  ∃ reply h, (trimtabSetKnobs request).run (begin s) = .ok reply h ∧
    Exact request s reply h.sched ∧
    ∀ request' : Fields, request'.entries.Perm request.entries →
      ∃ reply' h', (trimtabSetKnobs request').run (begin s) = .ok reply' h' ∧
        SameOutcome reply reply' h.sched h'.sched

def outcome (s : Sched) (request : Fields) (k : String) : Slot :=
  match request.get? k with
  | some v => settle (ceilingsOf s) s.running k v ⟨attributes s k, none, none⟩
  | none => ⟨attributes s k, none, none⟩

theorem finite_iff {v : Json} : VllmEngine.Finite v ↔ ∀ x, v = .float x → ∃ q, x = .fin q := by
  unfold VllmEngine.Finite
  cases v with
  | float x => cases x <;> simp [Json.num?, PyFloat.toInt]
  | _ => simp [Json.num?, PyFloat.toInt]

theorem allFinite_iff {request : Fields} : AllFinite request ↔
    ∀ k v, request.get? k = some v → k ∈ intKnobs → VllmEngine.Finite v := by
  simp only [finite_iff]
  constructor
  · rintro h k v hv hk x rfl
    exact h k hk x hv
  · intro h k hk x hv
    exact h k _ hv hk x rfl

theorem call_returns {request : Fields} (hfinite : AllFinite request) (s : Sched) :
    ∃ h, (trimtabSetKnobs request).run (begin s) =
        .ok ⟨h.rejected.entries.isEmpty, h.applied, h.rejected⟩ h ∧
      Context (ceilingsOf s) s.running h ∧ ∀ k, slot h k = outcome s request k := by
  obtain ⟨h, hrun, hctx, hsettled, hrest⟩ := forM_returns
    (rounds (ceilingsOf s) s.running request.entries) request.nodup (s := begin s) ⟨rfl, rfl⟩
    fun p hp hbad => hbad.2
      (allFinite_iff.mp hfinite p.1 p.2 (Dict.get?_eq_some_iff.mpr hp) hbad.1)
  refine ⟨h, ?_, hctx, fun k => ?_⟩
  · simp only [trimtabSetKnobs, EStateM.run_bind, hrun]
    rfl
  · unfold outcome
    cases hk : request.get? k with
    | some v => exact hsettled (k, v) (Dict.get?_eq_some_iff.mp hk)
    | none => exact hrest k (Dict.get?_eq_none_iff.mp hk)

theorem call_raises {request : Fields} (hinf : ¬AllFinite request) (s : Sched) :
    ∃ e h, (trimtabSetKnobs request).run (begin s) = .error e h := by
  obtain ⟨k, v, hk, hmem, hv⟩ : ∃ k v, request.get? k = some v ∧ k ∈ intKnobs ∧ ¬VllmEngine.Finite v := by
    simpa only [allFinite_iff, not_forall, exists_prop] using hinf
  obtain ⟨e, h, hrun⟩ := forM_raises (rounds (ceilingsOf s) s.running request.entries)
    request.nodup (s := begin s) ⟨rfl, rfl⟩ ⟨(k, v), Dict.get?_eq_some_iff.mp hk, hmem, hv⟩
  exact ⟨e, h, error_bind hrun _⟩

/-- A knob that reads as the verdict has it is in its range. -/
theorem written_of_verdict {s t : Sched} {k : String} {v w : Json}
    (hv : verdict (ceilingsOf s) k v = .ok w) (hattr : attributes t k = writtenAs s.running k w) :
    Written s t k w := by
  unfold verdict at hv
  split_ifs at hv with hprefill hlevel hin
  · subst hprefill
    cases hint : intOf v with
    | none => simp [hint] at hv
    | some n =>
      simp only [hint] at hv
      split_ifs at hv with hlt
      cases hv
      have hw := List.singleton_injective hattr
      exact .prefill n (Int.not_lt.mp hlt) (Json.int.inj hw)
  · subst hlevel
    cases hv
    have hw := List.singleton_injective hattr
    exact .logLevel _ (List.contains_iff_mem.mp hin) (Json.strOrNull_injective hw)
  · cases hceil : (ceilingsOf s).get? k with
    | none => simp [hceil] at hv
    | some ceiling =>
      cases hint : intOf v with
      | none => simp [hceil, hint] at hv
      | some n =>
        simp only [hceil, hint] at hv
        split_ifs at hv with hrange
        cases hv
        have hintn : intOf (.int n) = some n := intOf_eq rfl (PyFloat.toInt_intCast n)
        unfold Ceilings.get? at hceil
        split_ifs at hceil with hseqs hbatched
        · subst hseqs
          cases hceil
          rw [writtenAs, if_pos rfl, hintn] at hattr
          obtain ⟨hpending, hrest⟩ := List.cons.inj hattr
          have hmax := Json.int.inj (List.singleton_injective hrest)
          exact .seqs n hrange.1 hrange.2 (Json.intOrNull_injective hpending) hmax
        · subst hbatched
          cases hceil
          have hw := List.singleton_injective hattr
          exact .batched n hrange.1 hrange.2 (Json.int.inj hw)

theorem stored_of_verdict {c : Ceilings} {k : String} {v w : Json} (hv : verdict c k v = .ok w) :
    w = stored k v := by
  unfold verdict at hv
  unfold stored
  split_ifs at hv with hprefill hlevel hin
  · rw [if_neg (by rw [hprefill]; decide)]
    cases hint : intOf v with
    | none => simp [hint] at hv
    | some n =>
      simp only [hint] at hv
      split_ifs at hv
      cases hv
      rfl
  · rw [if_pos hlevel]
    cases hv
    rfl
  · rw [if_neg hlevel]
    cases hceil : c.get? k with
    | none => simp [hceil] at hv
    | some ceiling =>
      cases hint : intOf v with
      | none => simp [hceil, hint] at hv
      | some n =>
        simp only [hceil, hint] at hv
        split_ifs at hv
        cases hv
        rfl

theorem sched_ext {s t : Sched} (hattr : ∀ k, attributes s k = attributes t k)
    (hrunning : s.running = t.running) (hceil : s.ceilings = t.ceilings) : s = t := by
  have hprefill := Json.int.inj (List.singleton_injective (hattr "long_prefill_token_threshold"))
  have hlevel := Json.strOrNull_injective (List.singleton_injective (hattr "log_level"))
  have hbatched := Json.int.inj (List.singleton_injective (hattr "max_num_batched_tokens"))
  obtain ⟨hpending, hrest⟩ := List.cons.inj (hattr "max_num_seqs")
  have hseqs := Json.int.inj (List.singleton_injective hrest)
  have hpending := Json.intOrNull_injective hpending
  cases s
  cases t
  rw [Sched.mk.injEq]
  exact ⟨hrunning, hseqs, hbatched, hprefill, hlevel, hceil, hpending⟩

theorem exact_of_outcome {request : Fields} {s : Sched} {h : Handling}
    (hslots : ∀ k, slot h k = outcome s request k) :
    Exact request s ⟨h.rejected.entries.isEmpty, h.applied, h.rejected⟩ h.sched := by
  refine ⟨fun k v hk => ?_, fun k hk => ?_, ?_⟩
  · have hslot := hslots k
    rw [outcome, hk] at hslot
    dsimp only [settle] at hslot
    cases hv : verdict (ceilingsOf s) k v with
    | ok w =>
      rw [hv] at hslot
      obtain ⟨hattr, happlied, hrejected⟩ := Slot.mk.inj hslot
      rw [← stored_of_verdict hv]
      exact .inl ⟨written_of_verdict hv hattr, happlied, hrejected⟩
    | error text =>
      rw [hv] at hslot
      obtain ⟨hattr, happlied, hrejected⟩ := Slot.mk.inj hslot
      exact .inr ⟨text, hrejected, happlied, hattr⟩
  · have hslot := hslots k
    rw [outcome, hk] at hslot
    obtain ⟨hattr, happlied, hrejected⟩ := Slot.mk.inj hslot
    exact ⟨happlied, hrejected, hattr⟩
  · dsimp only
    rw [List.isEmpty_iff]
    constructor
    · intro hnil k
      rw [Dict.get?_eq_none_iff, Dict.keys, hnil]
      exact nofun
    · intro hnone
      exact congrArg Dict.entries (Dict.eq_empty hnone)

/-- The handler is total, exact and order-free on a request exactly when every value that goes
through `int` is finite. -/
theorem total_iff (request : Fields) (s : Sched) : Total request s ↔ AllFinite request := by
  constructor
  · rintro ⟨reply, h, hrun, -⟩
    by_contra hinf
    obtain ⟨e, h', hraise⟩ := call_raises hinf s
    rw [hrun] at hraise
    cases hraise
  · intro hfinite
    obtain ⟨h, hrun, hctx, hslots⟩ := call_returns hfinite s
    refine ⟨_, h, hrun, exact_of_outcome hslots, fun request' hperm => ?_⟩
    have hget : ∀ k, request'.get? k = request.get? k := Dict.get?_perm hperm
    have hfinite' : AllFinite request' := fun k hk x hv => hfinite k hk x ((hget k).symm.trans hv)
    obtain ⟨h', hrun', hctx', hslots'⟩ := call_returns hfinite' s
    have hsame : ∀ k, slot h' k = slot h k := fun k => by
      rw [hslots', hslots, outcome, outcome, hget]
    have hrejected : ∀ k, h'.rejected.get? k = h.rejected.get? k := fun k =>
      congrArg Slot.rejected (hsame k)
    refine ⟨_, h', hrun', ?_, ?_, fun k => congrArg Slot.applied (hsame k), hrejected⟩
    · exact sched_ext (fun k => congrArg Slot.attributes (hsame k)) (hctx'.2.trans hctx.2.symm)
        (hctx'.1.trans hctx.1.symm)
    · rw [Bool.eq_iff_iff, (exact_of_outcome hslots').ok, (exact_of_outcome hslots).ok]
      simp only [hrejected]

end Trimtab.VllmExact
