import Trimtab.ControlPlane
import Trimtab.Reconciler
import Trimtab.MemoLoop
import Trimtab.VllmEngine

set_option autoImplicit false

/-!
# What a reconciler's verdict says of its engine

A reconciler and its engine run beside the control plane. The reconciler decides by version
ids alone whether there is anything to do.
-/
namespace Trimtab.ReconcilerTruth
open Effects Runs StoreHistory Reconciler

variable {σ ι : Type}

inductive Event (ι : Type) where
  | plane (op : PlaneOp)
  | own (step : ι)
  | tick

def step (r : Reconciler σ ι) (s : Reconciling σ) : Event ι → Reconciling σ
  | .plane op => { s with store := op.apply s.store }
  | .own i => { s with engine := r.adapter.own i s.engine }
  | .tick => final r.tick s

/-- The tick asks the engine, on the way to `d`, for another value of a field of the version
that the reconciler remembers. -/
def spoils (r : Reconciler σ ι) (s : Reconciling σ) (d : ConfigVersion) : Bool :=
  match r.request d, s.appliedVersionId.bind s.store.find with
  | some changes, some old => r.adapter.overwrites s.engine changes old.fields
  | _, _ => false

/-- Whether the remembered version may no longer be in force: a tick that did not reach its
target has overwritten one of its fields. -/
def staleAfter (r : Reconciler σ ι) (s : Reconciling σ) (stale : Bool) : Event ι → Bool
  | .tick =>
    match r.target s.store with
    | none => stale
    | some d =>
      if some d.id = s.appliedVersionId then stale
      else if r.reaches s.engine d then false
      else stale || spoils r s d
  | _ => stale

/-- No tick takes the early exit while what it remembers may not be in force. -/
def Fresh (r : Reconciler σ ι) (p : Reconciling σ × Bool) : Event ι → Prop
  | .tick => ∀ d, r.target p.1.store = some d → some d.id = p.1.appliedVersionId → p.2 = false
  | _ => True

def Started (s : Reconciling σ) : Prop := s.appliedVersionId = none

abbrev ghostStep (r : Reconciler σ ι) : Reconciling σ × Bool → Event ι → Reconciling σ × Bool :=
  withGhost (step r) (staleAfter r)

/-! ## The reconciler as a loop with a memory -/

def InForce (r : Reconciler σ ι) (world : Store × σ) (id : Int) : Prop :=
  ∃ d, world.1.find id = some d ∧ r.adapter.InForce world.2 d.fields

def memo (p : Reconciling σ × Bool) : MemoLoop (Store × σ) Int :=
  ⟨(p.1.store, p.1.engine), p.1.appliedVersionId, p.2⟩

/-- A field that is in no way cold and has not been refused is one that was accepted. -/
theorem accepted_of_clean {m : Manifest} (hm : m.PlainChoices) {fields : Fields}
    (hclean : (badOf (m.validate fields).2).entries = []) {k : String} {v : Json}
    (hv : fields.get? k = some v) (hcw : m.coldOrWarm k = false) :
    (m.validate fields).1.get? k = some v := by
  rw [accepted_get?]
  refine ⟨hv, ?_⟩
  cases hr : m.reject k v with
  | none => rfl
  | some text =>
    have hplain := reject_plain hm hcw hr
    have hrej : (m.validate fields).2.get? k = some text :=
      (rejected_get? m fields k text).mpr ⟨v, hv, hr⟩
    have hcold : (coldOf (m.validate fields).2).contains k = false := by
      rw [Dict.contains, coldOf, Dict.get?_filter, hrej]
      simp [hplain.1, hplain.2]
    have hbad : (badOf (m.validate fields).2).get? k = some text := by
      rw [badOf, Dict.get?_filter, hrej]
      simp [hcold]
    rw [Dict.get?_eq_some_iff, hclean] at hbad
    cases hbad

theorem request_admits (r : Reconciler σ ι) {d : ConfigVersion} {changes : Fields}
    (h : r.request d = some changes) : r.manifest.Admits changes := by
  unfold request at h
  dsimp only at h
  split_ifs at h
  cases h
  exact validate_admits r.manifest d.fields

/-- A step of the system is a move of the loop. -/
theorem move_step (r : Reconciler σ ι) (hm : r.manifest.PlainChoices) (p : Reconciling σ × Bool)
    (e : Event ι) : MemoLoop.Move (InForce r) (memo p) (memo (ghostStep r p e)) := by
  obtain ⟨s, stale⟩ := p
  have hsame : ∀ store, Store.Reports s.store store → ∀ v, InForce r (s.store, s.engine) v →
      InForce r (store, s.engine) v := by
    rintro store hreports v ⟨d, hd, hlive⟩
    exact ⟨d, (Store.find_of_reports hreports v).trans hd, hlive⟩
  cases e with
  | plane op =>
    refine .keeps (op.apply s.store, s.engine) stale fun hs => ⟨hs, fun v _ hv => ?_⟩
    obtain ⟨d, hd, hlive⟩ := hv
    exact ⟨d, find_of_extends (op.apply_extends s.store) hd, hlive⟩
  | own i =>
    refine .keeps (s.store, r.adapter.own i s.engine) stale fun hs => ⟨hs, fun v _ hv => ?_⟩
    obtain ⟨d, hd, hlive⟩ := hv
    refine ⟨d, hd, fun k v hk hcw => ?_⟩
    rw [r.adapter.live_own]
    exact hlive k v hk hcw
  | tick =>
    have ht := r.tick_ticked s
    change MemoLoop.Move (InForce r) (memo (s, stale))
      (memo (final r.tick s, staleAfter r s stale .tick))
    generalize value? r.tick s = result at ht
    generalize final r.tick s = t at ht
    cases ht with
    | raised unread =>
      have htarget : r.target s.store = none := by rw [target, Store.target, unread]; rfl
      rw [staleAfter, htarget]
      exact .keeps _ _ fun hs => ⟨hs, fun _ _ hv => hv⟩
    | idle store reports exit =>
      have hstale : staleAfter r s stale .tick = stale := by
        cases htarget : r.target s.store with
        | none => simp only [staleAfter, htarget]
        | some d => simp only [staleAfter, htarget, exit d htarget, if_true]
      rw [hstale]
      exact .keeps (store, s.engine) stale fun hs => ⟨hs, fun v _ hv => hsame store reports v hv⟩
    | rejected store reports d target new unsent short =>
      have hspoils : spoils r s d = false := by rw [spoils, unsent]
      have hstale : staleAfter r s stale .tick = stale := by
        simp only [staleAfter, target, new, if_false, short, Bool.false_eq_true, hspoils,
          Bool.or_false]
      rw [hstale]
      exact .keeps (store, s.engine) stale fun hs => ⟨hs, fun v _ hv => hsame store reports v hv⟩
    | refused store reports d changes target new sent short =>
      have hstale : staleAfter r s stale .tick = (stale || spoils r s d) := by
        simp only [staleAfter, target, new, if_false, short, Bool.false_eq_true]
      rw [hstale]
      refine .keeps (store, final (r.adapter.setHot changes) s.engine) _ fun hs => ?_
      rw [Bool.or_eq_false_iff] at hs
      refine ⟨hs.1, fun v hv hin => ?_⟩
      obtain ⟨old, hold, hlive⟩ := hin
      have hfind : s.store.find v = some old := hold
      have hmemo : s.appliedVersionId = some v := hv
      have hkeep : r.adapter.overwrites s.engine changes old.fields = false := by
        have h := hs.2
        rw [spoils, sent, hmemo, Option.bind_some, hfind] at h
        exact h
      exact ⟨old, (Store.find_of_reports reports v).trans hold,
        r.adapter.inForce_of_not_overwrites (request_admits r sent) hkeep hlive⟩
    | done store reports d target new verdict engine reached sent clean hverdict holds =>
      have hstale : staleAfter r s stale .tick = false := by
        simp only [staleAfter, target, new, if_false, reached, if_true]
      rw [hstale]
      refine .reaches (store, engine) d.id
        ⟨d, (Store.find_of_reports reports d.id).trans (Store.find_target target), ?_⟩
      exact fun k v hk hcw => holds k v (accepted_of_clean hm clean hk hcw)

theorem truthful_run (r : Reconciler σ ι) (hm : r.manifest.PlainChoices) {s : Reconciling σ}
    (hs : Started s) (es : List (Event ι)) :
    MemoLoop.Truthful (InForce r) (memo (run (ghostStep r) (s, false) es)) := by
  refine run_invariant (I := fun p => MemoLoop.Truthful (InForce r) (memo p))
    (fun p e h => MemoLoop.truthful_move (move_step r hm p e) h) es ?_
  have hfresh : memo (s, false) = ⟨(s.store, s.engine), none, false⟩ := by rw [memo, hs]
  rw [hfresh]
  exact MemoLoop.truthful_fresh _ _

/-! ## Healthy is truthful -/

/-- If a tick in `s` says healthy, the fields of its target are in force. -/
def HealthyTruthful (r : Reconciler σ ι) (s : Reconciling σ) : Prop :=
  ∀ d, r.target s.store = some d → value? r.tick s = some HEALTHY →
    r.adapter.InForce (final r.tick s).engine d.fields

theorem truthful_of_fresh (r : Reconciler σ ι) (hm : r.manifest.PlainChoices) {s : Reconciling σ}
    (hs : Started s) (es : List (Event ι)) (hf : Fresh r (run (ghostStep r) (s, false) es) .tick) :
    HealthyTruthful r (run (step r) s es) := by
  have hbefore := truthful_run r hm hs es
  have hfst : (run (ghostStep r) (s, false) es).1 = run (step r) s es := run_withGhost_fst _ es
  generalize run (ghostStep r) (s, false) es = p at hf hbefore hfst
  obtain ⟨s', stale⟩ := p
  rw [← hfst]
  intro d htarget hresult
  have hfound := Store.find_target htarget
  have ht := r.tick_ticked s'
  rw [hresult] at ht
  generalize final r.tick s' = t at ht ⊢
  have hHF : HEALTHY ≠ FAILED := by decide
  generalize hverdict : some HEALTHY = verdict at ht
  cases ht with
  | raised unread => cases hverdict
  | idle store reports exit =>
    have hmemo := exit d htarget
    obtain ⟨d', hd', hlive⟩ := hbefore (hf d htarget hmemo) d.id hmemo.symm
    have hsame : d' = d := Option.some.inj (hd'.symm.trans hfound)
    exact hsame ▸ hlive
  | rejected store reports d target new unsent short => exact absurd (Option.some.inj hverdict) hHF
  | refused store reports d changes target new sent short =>
    exact absurd (Option.some.inj hverdict) hHF
  | done store reports d' target new verdict engine reached sent clean hv holds =>
    rw [htarget] at target
    cases target
    exact fun k v hk hcw => holds k v (accepted_of_clean hm clean hk hcw)

/-- Every healthy verdict of a run is truthful, when none rests on a memory that a refused
request has spoiled. -/
theorem healthy_truthful (r : Reconciler σ ι) (hm : r.manifest.PlainChoices) (s : Reconciling σ)
    (hs : Started s) (es : List (Event ι)) (hf : Along (ghostStep r) (Fresh r) (s, false) es) :
    Along (step r) (fun s e => e = .tick → HealthyTruthful r s) s es := by
  rw [along_iff] at hf ⊢
  rintro before e after rfl rfl
  exact truthful_of_fresh r hm hs before (hf before .tick after rfl)

def vllmReconciler : Reconciler VllmScheduler.Sched VllmEngine.Own :=
  ⟨vllmManifest, VllmEngine.vllm, "r0", "g"⟩

def booted : Reconciling VllmScheduler.Sched :=
  ⟨Store.empty, none, ⟨0, 32, 2048, 0, none, none, none⟩⟩

def propose (fields : List (String × Json)) : Event VllmEngine.Own :=
  .plane (.client (.propose "g" (Dict.ofList fields) "t" ""))

def promote (id : Int) : Event VllmEngine.Own := .plane (.client (.promote "g" id))

def rollback (id : Int) : Event VllmEngine.Own := .plane (.client (.rollback "g" id))

instance (r : Reconciler σ ι) (p : Reconciling σ × Bool) : (e : Event ι) → Decidable (Fresh r p e)
  | .tick => decidable_of_iff
      (∀ d ∈ r.target p.1.store, some d.id = p.1.appliedVersionId → p.2 = false) Iff.rfl
  | .plane _ => isTrue trivial
  | .own _ => isTrue trivial

theorem healthy_truthful_twice : Along (step vllmReconciler)
    (fun s e => e = .tick → HealthyTruthful vllmReconciler s) booted
    [propose [("max_num_seqs", .int 16)], promote 1, .tick, .own (.schedule [true]), .tick] :=
  healthy_truthful vllmReconciler vllm_plainChoices booted rfl _ (by decide +kernel)

/-- The second version is refused for its tokens, after its smaller cap was accepted. -/
def partlyRefused : List (Event VllmEngine.Own) :=
  [propose [("max_num_seqs", .int 16)], promote 1, .tick,
    propose [("max_num_batched_tokens", .int 4096), ("max_num_seqs", .int 8)], promote 2, .tick,
    rollback 1]

theorem healthy_after_partial_refusal :
    ¬∀ (s : Reconciling VllmScheduler.Sched) (es : List (Event VllmEngine.Own)), Started s →
      Along (step vllmReconciler) (fun s e => e = .tick → HealthyTruthful vllmReconciler s) s es := by
  intro h
  have htick := along_iff.mp (h booted (partlyRefused ++ [.tick]) rfl) partlyRefused .tick [] rfl rfl
  have htarget : vllmReconciler.target (run (step vllmReconciler) booted partlyRefused).store =
      some ⟨⟨"g", none, Dict.ofList [("max_num_seqs", .int 16)], "t", ""⟩, 1⟩ := by decide +kernel
  have hhealthy : value? vllmReconciler.tick (run (step vllmReconciler) booted partlyRefused) =
      some HEALTHY := by decide +kernel
  have hlive : VllmEngine.live
      (final vllmReconciler.tick (run (step vllmReconciler) booted partlyRefused)).engine
      "max_num_seqs" = some (.int 8) := by decide +kernel
  have hforce := htick _ htarget hhealthy "max_num_seqs" (.int 16) (by decide +kernel)
    (by decide +kernel)
  have hcontra : some (Json.int 8) = some (VllmEngine.stored "max_num_seqs" (.int 16)) :=
    hlive.symm.trans hforce
  exact absurd hcontra (by decide +kernel)

/-! ## Going back -/

/-- A tick that reaches its engine changes no knob but those that `fields` names. -/
def Spares (r : Reconciler σ ι) (fields : Fields) (s : Reconciling σ) : Event ι → Prop
  | .tick => ∀ d changes, r.target s.store = some d → some d.id ≠ s.appliedVersionId →
      r.request d = some changes → r.adapter.spares s.engine changes fields = true
  | _ => True

theorem agreeOff_step (r : Reconciler σ ι) {fields : Fields} {s : Reconciling σ} {e : Event ι}
    (h : Spares r fields s e) : r.adapter.AgreeOff fields s.engine (step r s e).engine := by
  cases e with
  | plane op => exact fun k _ => rfl
  | own i =>
    intro k _
    exact congrFun (r.adapter.live_own i s.engine) k
  | tick =>
    have ht := r.tick_ticked s
    change r.adapter.AgreeOff fields s.engine (final r.tick s).engine
    generalize value? r.tick s = result at ht
    generalize final r.tick s = t at ht
    cases ht with
    | raised unread => exact fun k _ => rfl
    | idle store reports exit => exact fun k _ => rfl
    | rejected store reports d target new unsent short => exact fun k _ => rfl
    | refused store reports d changes target new sent short =>
      exact r.adapter.agreeOff_of_spares (request_admits r sent) (h d changes target new sent)
    | done store reports d target new verdict engine reached sent clean hv holds =>
      cases hreq : r.request d with
      | none =>
        rw [hreq] at sent
        subst sent
        exact fun k _ => rfl
      | some changes =>
        rw [hreq] at sent
        subst sent
        exact r.adapter.agreeOff_of_spares (request_admits r hreq) (h d changes target new hreq)

theorem agreeOff_run (r : Reconciler σ ι) {fields : Fields} {s : Reconciling σ} {es : List (Event ι)}
    (h : Along (step r) (Spares r fields) s es) :
    r.adapter.AgreeOff fields s.engine (run (step r) s es).engine := by
  induction es generalizing s with
  | nil => exact fun k _ => rfl
  | cons e es ih => exact fun k hk => (ih h.2 k hk).trans (agreeOff_step r h.1 k hk)

def HealthyAt (r : Reconciler σ ι) (s : Reconciling σ) (v : Int) : Prop :=
  (r.target s.store).map (·.id) = some v ∧ value? r.tick s = some HEALTHY

/-- Two healthy ticks at `v`, with any run between them, leave the same hot knobs. -/
def Restores (r : Reconciler σ ι) (s : Reconciling σ) (before between : List (Event ι)) (v : Int) :
    Prop :=
  HealthyAt r (run (step r) s before) v →
    HealthyAt r (run (step r) s (before ++ .tick :: between)) v →
    r.adapter.live (run (step r) s (before ++ .tick :: (between ++ [.tick]))).engine =
      r.adapter.live (run (step r) s (before ++ [.tick])).engine

theorem find_step (r : Reconciler σ ι) (s : Reconciling σ) (e : Event ι) {id : Int}
    {d : ConfigVersion} (h : s.store.find id = some d) : (step r s e).store.find id = some d := by
  cases e with
  | plane op => exact find_of_extends (op.apply_extends s.store) h
  | own i => exact h
  | tick =>
    have ht := r.tick_ticked s
    change (final r.tick s).store.find id = some d
    generalize value? r.tick s = result at ht
    generalize final r.tick s = t at ht
    cases ht with
    | raised unread => exact h
    | idle store reports exit => exact (Store.find_of_reports reports id).trans h
    | rejected store reports d target new unsent short =>
      exact (Store.find_of_reports reports id).trans h
    | refused store reports d changes target new sent short =>
      exact (Store.find_of_reports reports id).trans h
    | done store reports d target new verdict engine reached sent clean hv holds =>
      exact (Store.find_of_reports reports id).trans h

theorem find_run (r : Reconciler σ ι) {s : Reconciling σ} (es : List (Event ι)) {id : Int}
    {d : ConfigVersion} (h : s.store.find id = some d) :
    (run (step r) s es).store.find id = some d :=
  run_invariant (I := fun s => s.store.find id = some d) (fun s e h => find_step r s e h) es h

/-- Going back to a version restores the engine, when the ticks in between spare the knobs
that the version does not name, and neither verdict rests on a spoiled memory. -/
theorem going_back_restores (r : Reconciler σ ι) (hm : r.manifest.PlainChoices)
    (s : Reconciling σ) (hs : Started s) (before between : List (Event ι)) (v : Int)
    (hfirst : Fresh r (run (ghostStep r) (s, false) before) .tick)
    (hsecond : Fresh r (run (ghostStep r) (s, false) (before ++ .tick :: between)) .tick)
    (hspares : ∀ d, (run (step r) s before).store.find v = some d →
      Along (step r) (Spares r d.fields) (run (step r) s (before ++ [.tick])) (between ++ [.tick])) :
    Restores r s before between v := by
  intro hat hat'
  obtain ⟨d, htarget, hid⟩ := Option.map_eq_some_iff.mp hat.1
  obtain ⟨d', htarget', hid'⟩ := Option.map_eq_some_iff.mp hat'.1
  have hfound : (run (step r) s before).store.find v = some d := hid ▸ Store.find_target htarget
  have hsame : d' = d := by
    have hlater : (run (step r) s (before ++ .tick :: between)).store.find v = some d := by
      rw [run_append]
      exact find_run r _ hfound
    rw [← hid', Store.find_target htarget'] at hlater
    exact Option.some.inj hlater
  subst hsame
  have hin := truthful_of_fresh r hm hs before hfirst d' htarget hat.2
  have hin' := truthful_of_fresh r hm hs (before ++ .tick :: between) hsecond d' htarget' hat'.2
  have hend : run (step r) s (before ++ .tick :: (between ++ [.tick])) =
      run (step r) (run (step r) s (before ++ [.tick])) (between ++ [.tick]) := by
    rw [← run_append, List.append_assoc, List.singleton_append]
  have hoff := agreeOff_run r (hspares d' hfound)
  rw [← hend] at hoff
  funext k
  cases hk : d'.fields.get? k with
  | none => exact hoff k (.inl hk)
  | some w =>
    cases hcw : r.manifest.coldOrWarm k with
    | true => exact hoff k (.inr hcw)
    | false =>
      have hlast : run (step r) s (before ++ .tick :: (between ++ [.tick])) =
          final r.tick (run (step r) s (before ++ .tick :: between)) := by
        rw [← List.cons_append, ← List.append_assoc, run_concat]
        rfl
      have hone : run (step r) s (before ++ [.tick]) = final r.tick (run (step r) s before) :=
        run_concat s before .tick
      rw [hlast, hone, hin' k w hk hcw, hin k w hk hcw]

instance (r : Reconciler σ ι) (fields : Fields) (s : Reconciling σ) :
    (e : Event ι) → Decidable (Spares r fields s e)
  | .tick => decidable_of_iff
      (∀ d ∈ r.target s.store, some d.id ≠ s.appliedVersionId → ∀ changes ∈ r.request d,
        r.adapter.spares s.engine changes fields = true)
      ⟨fun h d changes hd hnew hc => h d hd hnew changes hc,
        fun h d hd hnew changes hc => h d changes hd hnew hc⟩
  | .plane _ => isTrue trivial
  | .own _ => isTrue trivial

/-- A version that sets `fields` is proposed as number `id`, promoted and ticked once. -/
def detour (fields : List (String × Json)) (id : Int) : List (Event VllmEngine.Own) :=
  [propose fields, promote id, .tick]

theorem going_back_from_cap : Restores vllmReconciler booted
    [propose [("max_num_seqs", .int 16)], promote 1]
    (detour [("max_num_seqs", .int 8)] 2 ++ [rollback 1]) 1 := by
  have hspares : ∀ d ∈ (run (step vllmReconciler) booted
      [propose [("max_num_seqs", .int 16)], promote 1]).store.find 1,
      Along (step vllmReconciler) (Spares vllmReconciler d.fields)
        (run (step vllmReconciler) booted
          ([propose [("max_num_seqs", .int 16)], promote 1] ++ [.tick]))
        ((detour [("max_num_seqs", .int 8)] 2 ++ [rollback 1]) ++ [.tick]) := by decide +kernel
  exact going_back_restores vllmReconciler vllm_plainChoices booted rfl _ _ 1 (by decide +kernel)
    (by decide +kernel) hspares

/-- The rollback to a version that says nothing of the batches leaves the smaller ones. -/
theorem rollback_keeps_unnamed :
    ¬∀ (s : Reconciling VllmScheduler.Sched) (before between : List (Event VllmEngine.Own))
      (v : Int), Started s → Restores vllmReconciler s before between v := by
  intro h
  have hr := h booted [propose [("max_num_seqs", .int 16)], promote 1]
    (detour [("max_num_batched_tokens", .int 1024)] 2 ++ [rollback 1]) 1 rfl
    (by unfold HealthyAt; decide +kernel) (by unfold HealthyAt; decide +kernel)
  have hbatches := congrFun hr "max_num_batched_tokens"
  have hlater : VllmEngine.live (run (step vllmReconciler) booted
      ([propose [("max_num_seqs", .int 16)], promote 1] ++
        .tick :: ((detour [("max_num_batched_tokens", .int 1024)] 2 ++ [rollback 1]) ++
          [.tick]))).engine "max_num_batched_tokens" = some (.int 1024) := by decide +kernel
  have hearlier : VllmEngine.live (run (step vllmReconciler) booted
      ([propose [("max_num_seqs", .int 16)], promote 1] ++ [.tick])).engine
      "max_num_batched_tokens" = some (.int 2048) := by decide +kernel
  have hsame : some (Json.int 1024) = some (Json.int 2048) :=
    hlater.symm.trans (hbatches.trans hearlier)
  exact absurd hsame (by decide)

end Trimtab.ReconcilerTruth
