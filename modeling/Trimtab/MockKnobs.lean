import Trimtab.MockApply
import Trimtab.VllmExact

set_option autoImplicit false

/-! What the stand-in and the patched engine core make of one and the same `set_knobs` request. -/
namespace Trimtab.MockEngine
open PyText Effects VllmScheduler VllmEngine VllmReinit VllmExact KeyedLoop
open SglangScheduler (isReinit reinitFields)

/-! ### A request to the stand-in -/

/-- What a call of `apply` makes of each key of the request, where none is a key of a reinit. -/
theorem apply_run {c : Ceilings} {knobs : Fields} {m : State} (hctx : Context c (begin m))
    (hplain : ∀ k, (knobs.get? k).isSome → isReinit k = false)
    (hfin : ∀ k v, knobs.get? k = some v → VllmEngine.Finite v) :
    ∃ call, (apply knobs).run (begin m) = .ok (call.applied, call.rejected) call ∧
      Context c call ∧
      (∀ k v, knobs.get? k = some v → Settled c k v (slot (begin m) k) (slot call k)) ∧
      ∀ k, knobs.get? k = none → slot call k = slot (begin m) k := by
  have hkey : ∀ p ∈ knobs.entries, isReinit p.1 = false := fun p hp =>
    hplain p.1 (by rw [Dict.get?_eq_some_iff.mpr hp]; rfl)
  have hfields : (reinitFields knobs).entries.isEmpty = true := by
    have hnil : (knobs.filter fun k _ => isReinit k).entries = [] := by
      rw [List.eq_nil_iff_forall_not_mem]
      intro p hp
      obtain ⟨hp, hre⟩ := Dict.mem_filter.mp hp
      rw [hkey p hp] at hre
      cases hre
    rw [reinitFields, hnil]
    rfl
  have hothers : otherChanges knobs = knobs := Dict.filter_eq_self fun k v hk => by
    rw [hplain k (by rw [hk]; rfl)]
    rfl
  obtain ⟨t, hrun, ht, hsettled, hrest⟩ := forM_returns (rounds c knobs.entries
    fun p hp => hfin p.1 p.2 (Dict.get?_eq_some_iff.mpr hp)) knobs.nodup hctx fun _ _ h => h
  refine ⟨{ t with state := { t.state with appliedCalls := t.state.appliedCalls + 1 } }, ?_,
    ⟨ht.engine, ht.ceilings, ht.knobs⟩, fun k v hk => hsettled (k, v) (Dict.get?_eq_some_iff.mp hk),
    fun k hk => hrest k (Dict.get?_eq_none_iff.mp hk)⟩
  have hreinit : (handleReinit knobs).run (begin m) = .ok () (begin m) := by
    unfold handleReinit
    rw [hfields]
    rfl
  unfold apply
  rw [EStateM.run_bind, hreinit, hothers]
  simp only
  rw [EStateM.run_bind, hrun]
  rfl

def KeepsRefusal (k : String) (c t : Call) : Prop := t.rejected.get? k = c.rejected.get? k

theorem keepsRefusal_refl (k : String) (c : Call) : KeepsRefusal k c c := rfl

theorem keepsRefusal_trans (k : String) ⦃c t u : Call⦄ (h : KeepsRefusal k c t)
    (h' : KeepsRefusal k t u) : KeepsRefusal k c u := Eq.trans h' h

theorem keepsRefusal_reject {k key : String} (h : k ≠ key) (text : String) :
    Respects (KeepsRefusal k) (reject key text) := fun _ => Dict.get?_insert_of_ne _ _ h

theorem keepsRefusal_write (k key : String) (value : Json) :
    Respects (KeepsRefusal k) (write key value) := fun _ => rfl

theorem keepsRefusal_handle {k key : String} (h : k ≠ key) (value : Json) :
    Respects (KeepsRefusal k) (handle key value) := by
  have hreject (text : String) : Respects (KeepsRefusal k) (reject key text) :=
    keepsRefusal_reject h text
  have hwrite (w : Json) : Respects (KeepsRefusal k) (write key w) := keepsRefusal_write k key w
  have hget : Respects (KeepsRefusal k) (get : CallM Call) := keepsRefusal_refl k
  have hbind {α : Type} (x : Except PyErr α) {f : α → CallM Unit}
      (hf : ∀ a, Respects (KeepsRefusal k) (f a)) : Respects (KeepsRefusal k) (ofExcept x >>= f) :=
    respects_bind (keepsRefusal_trans k) (respects_ofExcept (keepsRefusal_refl k) x) hf
  unfold handle
  refine respects_bind (keepsRefusal_trans k) hget fun c => ?_
  cases strChoices key with
  | some choices =>
    simp only
    split_ifs
    · exact hreject _
    · exact hreject _
    · exact hwrite _
    · exact hwrite _
  | none =>
    cases value.num? with
    | none =>
      simp only
      split_ifs
      · exact hreject _
      · exact hreject _
      · exact hreject _
    | some x =>
      simp only
      split_ifs
      · exact hreject _
      · exact hreject _
      · exact hbind _ fun _ => hwrite _
      · refine hbind _ fun n => ?_
        split_ifs
        · exact hreject _
        · exact hwrite _

theorem keepsRefusal_handleReinit {k : String} (hk : isReinit k = true) (changes : Fields) :
    Respects (KeepsRefusal k) (handleReinit changes) := by
  have hne : k ≠ "reinit" := fun h => absurd (h ▸ hk : isReinit "reinit" = true) (by decide)
  unfold handleReinit
  split_ifs
  · refine respects_bind (keepsRefusal_trans k) (fun c => ?_) fun r => ?_
    · unfold final
      rw [zoom_run]
      cases (reinit (reinitFields changes)).run c.state with
      | ok r s => exact keepsRefusal_refl k c
      | error e s => exact keepsRefusal_refl k c
    · cases r with
      | ok r => exact fun _ => rfl
      | error text => exact fun _ => Dict.get?_insert_of_ne _ _ hne
  · exact keepsRefusal_refl k

/-- A key of a reinit is neither a knob nor refused under its own name. -/
theorem apply_ignores {knobs : Fields} {m : State} {out : Dict String Json × Dict String String}
    {call : Call} (hrun : (apply knobs).run (begin m) = .ok out call) {k : String}
    (hk : isReinit k = true) : out.2.get? k = none := by
  have hkept : Respects (KeepsRefusal k) (apply knobs) := by
    unfold apply
    refine respects_bind (keepsRefusal_trans k) (keepsRefusal_handleReinit hk knobs) fun _ => ?_
    refine respects_bind (keepsRefusal_trans k) ?_ fun _ => keepsRefusal_refl k
    refine respects_forM_of_mem (keepsRefusal_refl k) (keepsRefusal_trans k) fun p hp => ?_
    refine keepsRefusal_handle (fun he => ?_) p.2
    obtain ⟨-, hnot⟩ := Dict.mem_filter.mp hp
    rw [← he, hk] at hnot
    cases hnot
  have hout : out.2 = call.rejected := by
    unfold apply at hrun
    rw [EStateM.run_bind] at hrun
    cases hreinit : (handleReinit knobs).run (begin m) with
    | error e t =>
      rw [hreinit] at hrun
      cases hrun
    | ok u t =>
      rw [hreinit] at hrun
      simp only at hrun
      rw [EStateM.run_bind] at hrun
      cases hloop : ((otherChanges knobs).entries.forM fun p => handle p.1 p.2).run t with
      | error e t' =>
        rw [hloop] at hrun
        cases hrun
      | ok u t' =>
        rw [hloop] at hrun
        cases hrun
        rfl
  have hfinal := hkept (begin m)
  rw [final_of_ok hrun] at hfinal
  rw [hout]
  exact hfinal

/-! ### A request to the engine core -/

theorem verdict_isOk (s : Sched) (key : String) (value : Json) :
    (verdict (ceilingsOf s) key value).toOption.isSome = takes s key value := by
  unfold verdict takes
  split_ifs with hprefill hlevel hin
  · cases intOf value with
    | none => rfl
    | some n =>
      simp only [Option.any_some]
      split_ifs with hn
      · rw [decide_eq_false (Int.not_le.mpr hn)]
        rfl
      · rw [decide_eq_true (Int.not_lt.mp hn)]
        rfl
  · exact hin.symm
  · exact (Bool.not_eq_true _ ▸ hin).symm
  · cases (ceilingsOf s).get? key with
    | none => rfl
    | some ceiling =>
      cases intOf value with
      | none => rfl
      | some n =>
        simp only [Option.any_some]
        split_ifs with hn
        · rw [decide_eq_true hn]
          rfl
        · rw [decide_eq_false hn]
          rfl

/-- What a call of the handler makes of the request. -/
theorem setKnobs_run {knobs : Fields} (hfin : ∀ k v, knobs.get? k = some v → VllmEngine.Finite v)
    (s : Sched) : ∃ reply h, (trimtabSetKnobs knobs).run (VllmScheduler.begin s) = .ok reply h ∧
      h.sched.ceilings = some (ceilingsOf s) ∧ h.sched.running = s.running ∧
      (∀ k, live h.sched k = match knobs.get? k with
        | some v => if takes s k v then some (stored k v) else live s k
        | none => live s k) ∧
      (∀ k, (reply.applied.get? k).isSome = (knobs.get? k).any (takes s k)) ∧
      ∀ k, (reply.rejected.get? k).isSome = (knobs.get? k).any fun v => !takes s k v := by
  obtain ⟨h, hrun, hctx, hslots⟩ := call_returns
    (allFinite_iff.mpr fun k v hk _ => hfin k v hk) s
  obtain ⟨h', hloop, hlive, -⟩ := loop_handled (h := VllmScheduler.begin s) knobs.nodup
    (fun p hp => hfin p.1 p.2 (Dict.get?_eq_some_iff.mpr hp)) rfl
  have hsame : h' = h := by
    rw [trimtabSetKnobs, EStateM.run_bind, hloop] at hrun
    exact (EStateM.Result.ok.inj hrun).2
  have hreply (k : String) : (h.applied.get? k).isSome = (knobs.get? k).any (takes s k) ∧
      (h.rejected.get? k).isSome = (knobs.get? k).any fun v => !takes s k v := by
    have hslot := hslots k
    unfold outcome at hslot
    cases hk : knobs.get? k with
    | none =>
      rw [hk] at hslot
      exact ⟨congrArg (fun o : VllmExact.Slot => o.applied.isSome) hslot,
        congrArg (fun o : VllmExact.Slot => o.rejected.isSome) hslot⟩
    | some v =>
      have hv := verdict_isOk s k v
      rw [hk] at hslot
      simp only [settle] at hslot
      rw [Option.any_some, Option.any_some, ← hv]
      cases hverdict : verdict (ceilingsOf s) k v with
      | ok w =>
        rw [hverdict] at hslot
        exact ⟨congrArg (fun o : VllmExact.Slot => o.applied.isSome) hslot,
          congrArg (fun o : VllmExact.Slot => o.rejected.isSome) hslot⟩
      | error text =>
        rw [hverdict] at hslot
        exact ⟨congrArg (fun o : VllmExact.Slot => o.applied.isSome) hslot,
          congrArg (fun o : VllmExact.Slot => o.rejected.isSome) hslot⟩
  exact ⟨_, h, hrun, hctx.1, hctx.2, hsame ▸ hlive, fun k => (hreply k).1, fun k => (hreply k).2⟩

end Trimtab.MockEngine
