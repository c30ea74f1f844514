import Trimtab.ControlPlane
import Trimtab.Reconciler
import Trimtab.VllmEngine

set_option autoImplicit false

/-!
# Pending cold fields

A version with fields that need a relaunch is applied as far as its hot fields go. The
verdict on the rest is given by the tick that applies it; later ticks leave early.
-/
namespace Trimtab.ReconcilerPending
open Effects Runs StoreHistory Reconciler

variable {σ : Type} (m : Manifest) (setHot : Fields → EStateM PyErr σ ApplyResult)
  (replicaId group : String)

/-- The engine may change in any way between two ticks. -/
inductive Event (σ : Type) where
  | plane (op : PlaneOp)
  | engine (after : σ)
  | tick

def step (s : Reconciling σ) : Event σ → Reconciling σ
  | .plane op => { s with store := op.apply s.store }
  | .engine after => { s with engine := after }
  | .tick => final (tickOver m setHot replicaId group) s

def HasCold (d : ConfigVersion) : Prop := ∃ k v, d.fields.get? k = some v ∧ m.coldOrWarm k = true

/-- A tick whose target has a cold field neither returns healthy nor leaves healthy in the
replica's row. -/
def NotHealthy (s : Reconciling σ) : Event σ → Prop
  | .tick => ∀ d, s.store.target replicaId group = some d → HasCold m d →
    value? (tickOver m setHot replicaId group) s ≠ some HEALTHY ∧
      ∀ row, (final (tickOver m setHot replicaId group) s).store.replicaStatus.get? replicaId = some row →
        row.state ≠ HEALTHY
  | _ => True

/-- After a tick that has applied the hot fields of `d`, every tick answers `needs_reinit` as
long as `d` has been the target of all of them. -/
def StaysPending (s : Reconciling σ) (es : List (Event σ)) : Prop :=
  ∀ before between after d, es = before ++ .tick :: (between ++ .tick :: after) → HasCold m d →
    (run (step m setHot replicaId group) s before).store.target replicaId group = some d →
    (run (step m setHot replicaId group) s (before ++ [.tick])).appliedVersionId = some d.id →
    (∀ xs ys, between = xs ++ ys → (run (step m setHot replicaId group) s
      (before ++ .tick :: xs)).store.target replicaId group = some d) →
    value? (tickOver m setHot replicaId group)
      (run (step m setHot replicaId group) s (before ++ .tick :: between)) = some NEEDS_REINIT

/-- No tick finds a version with a cold field that it takes for applied already. -/
def NewToTick (s : Reconciling σ) : Event σ → Prop
  | .tick => ∀ d, s.store.target replicaId group = some d → HasCold m d →
    some d.id ≠ s.appliedVersionId
  | _ => True

variable {m setHot replicaId group}

/-- A cold field is among the pending ones, whatever else is refused. -/
theorem coldOf_ne_nil {d : ConfigVersion} (h : HasCold m d) :
    (coldOf (m.validate d.fields).2).entries.isEmpty = false := by
  obtain ⟨k, v, hv, hk⟩ := h
  obtain ⟨text, htext, hword⟩ : ∃ text, m.reject k v = some text ∧
      (PyText.isIn "cold" text || PyText.isIn "warm" text) = true := by
    rcases reject_of_coldOrWarm hk v with h | h
    · exact ⟨_, h, by decide⟩
    · exact ⟨_, h, by decide⟩
  have hrejected : (m.validate d.fields).2.get? k = some text :=
    (rejected_get? m d.fields k text).mpr ⟨v, hv, htext⟩
  have hcold : (coldOf (m.validate d.fields).2).get? k = some text := by
    rw [coldOf, Dict.get?_filter, hrejected, Option.filter_some, hword, if_pos rfl]
  rw [Bool.eq_false_iff, ne_eq, List.isEmpty_iff]
  intro hnil
  rw [Dict.get?_eq_some_iff, hnil] at hcold
  cases hcold

theorem desiredFor_run {s : Reconciling σ} {d : ConfigVersion}
    (h : s.store.target replicaId group = some d) :
    (onStore (Store.desiredFor replicaId group) : LoopM σ _).run s = .ok (some d) s := by
  rw [onStore, zoom_run, Store.target_eq_some.mp h]

/-- The early exit. -/
theorem tick_applied {s : Reconciling σ} {d : ConfigVersion}
    (h : s.store.target replicaId group = some d) (hold : some d.id = s.appliedVersionId) :
    (tickOver m setHot replicaId group).run s = .ok HEALTHY
      { s with store := s.store.recorded replicaId group s.appliedVersionId HEALTHY "" } := by
  unfold tickOver convergeOver concludeOver
  simp only [EStateM.run_bind, desiredFor_run h, EStateM.run_get, hold, if_true, recordOver_run]
  rfl

def Says (replicaId : String) (s : Reconciling σ) (state : String) : Prop :=
  ∃ row, s.store.replicaStatus.get? replicaId = some row ∧ row.state = state

theorem says_recorded (store : Store) (applied applied' : Option Int) (state detail : String)
    (engine : σ) :
    Says replicaId ⟨store.recorded replicaId group applied state detail, applied', engine⟩ state :=
  ⟨_, Dict.get?_insert_self _ _ _, rfl⟩

inductive Ended (replicaId : String) : EStateM.Result PyErr (Reconciling σ) String → Prop where
  | failed (t : Reconciling σ) (row : Says replicaId t FAILED) : Ended replicaId (.ok FAILED t)
  | raised (t : Reconciling σ) (e : PyErr) (row : Says replicaId t APPLYING) :
      Ended replicaId (.error e t)
  | pending (t : Reconciling σ) (row : Says replicaId t NEEDS_REINIT) :
      Ended replicaId (.ok NEEDS_REINIT t)

theorem tick_ended {s : Reconciling σ} {d : ConfigVersion}
    (h : s.store.target replicaId group = some d) (hcold : HasCold m d)
    (hnew : some d.id ≠ s.appliedVersionId) :
    Ended replicaId ((tickOver m setHot replicaId group).run s) := by
  have hpending := coldOf_ne_nil hcold
  unfold tickOver convergeOver concludeOver
  simp only [EStateM.run_bind, desiredFor_run h, EStateM.run_get, if_neg hnew]
  cases hbad : (badOf (m.validate d.fields).2).entries.isEmpty with
  | false => exact .failed _ (says_recorded _ _ _ _ _ _)
  | true =>
    simp only [Bool.not_true, Bool.false_eq_true, if_false, EStateM.run_bind, recordOver_run]
    cases hempty : (m.validate d.fields).1.entries.isEmpty with
    | true =>
      simp only [if_true, EStateM.run_pure, Bool.not_true, Bool.false_eq_true, if_false,
        EStateM.run_bind, EStateM.run_modify, hpending, Bool.not_false, recordOver_run]
      exact .pending _ (says_recorded _ _ _ _ _ _)
    | false =>
      simp only [Bool.false_eq_true, if_false, EStateM.run_bind, onEngine, zoom_run]
      cases (setHot (m.validate d.fields).1).run s.engine with
      | error e engine => exact .raised _ _ (says_recorded _ _ _ _ _ _)
      | ok result engine =>
        cases hok : result.ok with
        | false =>
          simp only [hok, Bool.not_false, if_true, EStateM.run_bind, EStateM.run_get, recordOver_run]
          exact .failed _ (says_recorded _ _ _ _ _ _)
        | true =>
          simp only [hok, Bool.not_true, Bool.false_eq_true, if_false, EStateM.run_bind,
            EStateM.run_modify, hpending, Bool.not_false, if_true, recordOver_run]
          exact .pending _ (says_recorded _ _ _ _ _ _)

theorem notHealthy_of_new {s : Reconciling σ} {d : ConfigVersion}
    (h : s.store.target replicaId group = some d) (hcold : HasCold m d)
    (hnew : some d.id ≠ s.appliedVersionId) :
    value? (tickOver m setHot replicaId group) s ≠ some HEALTHY ∧
      ∀ row, (final (tickOver m setHot replicaId group) s).store.replicaStatus.get? replicaId = some row →
        row.state ≠ HEALTHY := by
  have hended : Ended replicaId ((tickOver m setHot replicaId group).run s) := tick_ended h hcold hnew
  have hfailed : FAILED ≠ HEALTHY := by decide
  have hpending : NEEDS_REINIT ≠ HEALTHY := by decide
  unfold value? final
  generalize (tickOver m setHot replicaId group).run s = result at hended
  have hsays : ∀ (t : Reconciling σ) state, Says replicaId t state → state ≠ HEALTHY →
      ∀ row, t.store.replicaStatus.get? replicaId = some row → row.state ≠ HEALTHY := by
    rintro t state ⟨row, hrow, rfl⟩ hne row' hrow'
    rw [hrow, Option.some.injEq] at hrow'
    exact hrow' ▸ hne
  cases hended with
  | failed t row => exact ⟨fun h => hfailed (Option.some.inj h), hsays t _ row hfailed⟩
  | raised t e row => exact ⟨nofun, hsays t _ row (by decide)⟩
  | pending t row => exact ⟨fun h => hpending (Option.some.inj h), hsays t _ row hpending⟩

theorem notHealthy_iff (s : Reconciling σ) (e : Event σ) :
    NotHealthy m setHot replicaId group s e ↔ NewToTick m replicaId group s e := by
  cases e with
  | plane op => exact Iff.rfl
  | engine after => exact Iff.rfl
  | tick =>
    constructor
    · intro h d hd hcold hold
      have hhealthy : value? (tickOver m setHot replicaId group) s = some HEALTHY := by
        rw [value?, tick_applied hd hold]
      exact (h d hd hcold).1 hhealthy
    · exact fun h d hd hcold => notHealthy_of_new hd hcold (h d hd hcold)

/-- What a tick has applied stays so as long as the target does. -/
theorem applied_step {s : Reconciling σ} {d : ConfigVersion} {e : Event σ}
    (htarget : e = .tick → s.store.target replicaId group = some d)
    (happlied : s.appliedVersionId = some d.id) :
    (step m setHot replicaId group s e).appliedVersionId = some d.id := by
  cases e with
  | plane op => exact happlied
  | engine after => exact happlied
  | tick =>
    change (final (tickOver m setHot replicaId group) s).appliedVersionId = some d.id
    rw [final_of_ok (tick_applied (htarget rfl) happlied.symm)]
    exact happlied

theorem applied_run {s : Reconciling σ} {d : ConfigVersion} {es : List (Event σ)}
    (htarget : ∀ xs ys, es = xs ++ ys →
      (run (step m setHot replicaId group) s xs).store.target replicaId group = some d)
    (happlied : s.appliedVersionId = some d.id) :
    (run (step m setHot replicaId group) s es).appliedVersionId = some d.id := by
  induction es generalizing s with
  | nil => exact happlied
  | cons e es ih =>
    refine ih (fun xs ys hsplit => ?_) (applied_step (fun _ => htarget [] _ rfl) happlied)
    exact htarget (e :: xs) ys (by rw [hsplit]; rfl)

/-- Such a stretch of ticks never meets a second one that is new to its target. -/
theorem staysPending_of_new {s : Reconciling σ} {es : List (Event σ)}
    (h : Along (step m setHot replicaId group) (NewToTick m replicaId group) s es) :
    StaysPending m setHot replicaId group s es := by
  rintro before between after d hes hcold hd happlied htarget
  have hsplit : es = (before ++ .tick :: between) ++ .tick :: after := by
    rw [hes, List.append_assoc, List.cons_append]
  have hnew := along_iff.mp h (before ++ .tick :: between) .tick after hsplit d
    (htarget between [] (List.append_nil between).symm) hcold
  have hrun : ∀ xs, run (step m setHot replicaId group) s (before ++ .tick :: xs) =
      run (step m setHot replicaId group) (run (step m setHot replicaId group) s (before ++ [.tick]))
        xs := by
    intro xs
    rw [← run_append, List.append_assoc, List.singleton_append]
  refine absurd (Eq.symm ?_) hnew
  rw [hrun]
  exact applied_run (fun xs ys hxs => hrun xs ▸ htarget xs ys hxs) happlied

/-- Pending cold fields stay visible along a run exactly when no tick of the run finds its
target applied already. -/
theorem pending_visible_iff (s : Reconciling σ) (es : List (Event σ)) :
    (Along (step m setHot replicaId group) (NotHealthy m setHot replicaId group) s es ∧
      StaysPending m setHot replicaId group s es) ↔
      Along (step m setHot replicaId group) (NewToTick m replicaId group) s es := by
  have hiff : Along (step m setHot replicaId group) (NotHealthy m setHot replicaId group) s es ↔
      Along (step m setHot replicaId group) (NewToTick m replicaId group) s es :=
    along_congr notHealthy_iff
  exact ⟨fun h => hiff.mp h.1, fun h => ⟨hiff.mpr h, staysPending_of_new h⟩⟩

/-- A version with a hot cap and a cold degree of parallelism, as the test proposes it. -/
def mixed : List (Event VllmScheduler.Sched) :=
  [.plane (.client (.propose "g" (Dict.ofList [("max_num_seqs", .int 8),
    ("tensor_parallel_size", .int 4)]) "t" "mixed")), .plane (.client (.promote "g" 1)), .tick, .tick]

def booted : Reconciling VllmScheduler.Sched :=
  ⟨Store.empty, none, ⟨0, 32, 2048, 0, none, none, none⟩⟩

/-- The first tick says that the field is pending, the second that all is well. -/
theorem pending_forgotten :
    ¬(Along (step vllmManifest VllmEngine.setHot "r0" "g")
        (NotHealthy vllmManifest VllmEngine.setHot "r0" "g") booted mixed ∧
      StaysPending vllmManifest VllmEngine.setHot "r0" "g" booted mixed) := by
  intro h
  have hlast := along_iff.mp h.1 (mixed.take 3) .tick [] rfl
  have hcold : HasCold vllmManifest ⟨⟨"g", none, Dict.ofList [("max_num_seqs", .int 8),
      ("tensor_parallel_size", .int 4)], "t", "mixed"⟩, 1⟩ :=
    ⟨"tensor_parallel_size", .int 4, by decide +kernel, by decide +kernel⟩
  exact (hlast _ (by decide +kernel) hcold).1 (by decide +kernel)

end Trimtab.ReconcilerPending
