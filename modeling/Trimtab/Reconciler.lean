import Trimtab.HotEngine
import Trimtab.Store

set_option autoImplicit false

/-! The hot path: one replica, one adapter, one loop. -/
namespace Trimtab
open PyText Effects

abbrev HEALTHY := "healthy"
abbrev APPLYING := "applying"
abbrev FAILED := "failed"
abbrev NEEDS_REINIT := "needs_reinit"

structure Reconciler (σ ι : Type) where
  manifest : Manifest
  adapter : HotEngine manifest σ ι
  replicaId : String
  group : String

structure Reconciling (σ : Type) where
  store : Store
  appliedVersionId : Option Int
  engine : σ

namespace Reconciler

variable {σ ι : Type} (r : Reconciler σ ι)

abbrev LoopM (σ : Type) := EStateM PyErr (Reconciling σ)

def onStore {α : Type} (x : StoreM α) : LoopM σ α :=
  zoom (·.store) (fun store s => { s with store := store }) x

def onEngine {α : Type} (x : EStateM PyErr σ α) : LoopM σ α :=
  zoom (·.engine) (fun engine s => { s with engine := engine }) x

def coldOf (rejected : Dict String String) : Dict String String :=
  rejected.filter fun _ text => isIn "cold" text || isIn "warm" text

def badOf (rejected : Dict String String) : Dict String String :=
  rejected.filter fun k _ => !(coldOf rejected).contains k

section Over

/-! A tick, over what it calls of its adapter. -/
variable (m : Manifest) (setHot : Fields → EStateM PyErr σ ApplyResult) (replicaId group : String)

def recordOver (appliedVersionId : Option Int) (state detail : String) : LoopM σ Unit :=
  onStore (Store.recordStatus replicaId group appliedVersionId state detail)

def concludeOver (desired : ConfigVersion) (cold : Dict String String) (result : ApplyResult) :
    LoopM σ String := do
  if !result.ok then
    let applied := (← get).appliedVersionId
    recordOver replicaId group applied FAILED
      ("engine rejected " ++ reprDict result.rejected.entries)
    return FAILED
  modify fun s => { s with appliedVersionId := some desired.id }
  if !cold.entries.isEmpty then
    recordOver replicaId group (some desired.id) NEEDS_REINIT
      ("cold fields pending " ++ reprList (cold.keys.insertionSort (· ≤ ·)))
    return NEEDS_REINIT
  recordOver replicaId group (some desired.id) HEALTHY ""
  return HEALTHY

/-- The rest of a tick, past the early exit. -/
def convergeOver (desired : ConfigVersion) : LoopM σ String := do
  let applied := (← get).appliedVersionId
  let (hot, rejected) := m.validate desired.fields
  if !(badOf rejected).entries.isEmpty then
    recordOver replicaId group applied FAILED
      ("manifest rejected " ++ reprDict (badOf rejected).entries)
    return FAILED
  recordOver replicaId group applied APPLYING ""
  let result ← if hot.entries.isEmpty then pure ⟨true, ∅, ∅⟩ else onEngine (setHot hot)
  concludeOver replicaId group desired (coldOf rejected) result

def tickOver : LoopM σ String := do
  let desired ← onStore (Store.desiredFor replicaId group)
  let applied := (← get).appliedVersionId
  match desired with
  | none =>
    recordOver replicaId group applied HEALTHY ""
    return HEALTHY
  | some desired =>
    if some desired.id = applied then
      recordOver replicaId group applied HEALTHY ""
      return HEALTHY
    else convergeOver m setHot replicaId group desired

end Over

abbrev record : Option Int → String → String → LoopM σ Unit := recordOver r.replicaId r.group

abbrev conclude : ConfigVersion → Dict String String → ApplyResult → LoopM σ String :=
  concludeOver r.replicaId r.group

abbrev converge : ConfigVersion → LoopM σ String :=
  convergeOver r.manifest r.adapter.setHot r.replicaId r.group

def tick : LoopM σ String := tickOver r.manifest r.adapter.setHot r.replicaId r.group

theorem recordOver_run (replicaId group : String) (s : Reconciling σ) (applied : Option Int)
    (state detail : String) :
    (recordOver replicaId group applied state detail).run s =
      .ok () { s with store := s.store.recorded replicaId group applied state detail } := rfl

/-- A tick towards a version that the manifest takes as a whole, over an engine that does. -/
theorem tickOver_healthy {m : Manifest} {setHot : Fields → EStateM PyErr σ ApplyResult}
    {replicaId group : String} {s : Reconciling σ} {d : ConfigVersion}
    (hd : (Store.desiredFor replicaId group).run s.store = .ok (some d) s.store)
    (ha : m.Admits d.fields)
    (hset : ∃ result engine, (setHot d.fields).run s.engine = .ok result engine ∧
      result.ok = true) :
    value? (tickOver m setHot replicaId group) s = some HEALTHY := by
  obtain ⟨result, engine, hrun, hok⟩ := hset
  have hread : (onStore (Store.desiredFor replicaId group)).run s = .ok (some d) s := by
    rw [onStore, zoom_run, hd]
  have hsent : ∀ store, (onEngine (setHot d.fields)).run { s with store := store } =
      .ok result { s with store := store, engine := engine } := fun store => by
    rw [onEngine, zoom_run, hrun]
  unfold value? tickOver convergeOver concludeOver
  simp only [EStateM.run_bind, hread, EStateM.run_get, validate_of_admits ha]
  by_cases hnew : some d.id = s.appliedVersionId
  · rw [if_pos hnew]
    rfl
  have hclean : (badOf (∅ : Dict String String)).entries.isEmpty = true := rfl
  have hcold : (coldOf (∅ : Dict String String)).entries.isEmpty = true := rfl
  simp only [if_neg hnew, hclean, hcold, Bool.not_true, Bool.false_eq_true, if_false,
    EStateM.run_bind, recordOver_run]
  cases hempty : d.fields.entries.isEmpty with
  | true => rfl
  | false =>
    simp only [Bool.false_eq_true, if_false, EStateM.run_get, EStateM.run_bind, hsent, hok,
      Bool.not_true]
    rfl

/-! ## What a tick does -/

def target (s : Store) : Option ConfigVersion := s.target r.replicaId r.group

def request (d : ConfigVersion) : Option Fields :=
  let (hot, rejected) := r.manifest.validate d.fields
  if (badOf rejected).entries.isEmpty && !hot.entries.isEmpty then some hot else none

/-- The engine in state `e` would take a tick all the way to `d`. -/
def reaches (e : σ) (d : ConfigVersion) : Bool :=
  (badOf (r.manifest.validate d.fields).2).entries.isEmpty &&
    match r.request d with
    | some changes => (value? (r.adapter.setHot changes) e).any (·.ok)
    | none => true

/-- The outcomes of a tick: the engine is reached by none but the last two. -/
inductive Ticked (s : Reconciling σ) : Option String → Reconciling σ → Prop where
  | raised (unread : value? (Store.desiredFor r.replicaId r.group) s.store = none) : Ticked s none s
  | idle (store : Store) (reports : Store.Reports s.store store)
      (exit : ∀ d, r.target s.store = some d → some d.id = s.appliedVersionId) :
      Ticked s (some HEALTHY) { s with store := store }
  | rejected (store : Store) (reports : Store.Reports s.store store) (d : ConfigVersion)
      (target : r.target s.store = some d) (new : some d.id ≠ s.appliedVersionId)
      (unsent : r.request d = none) (short : r.reaches s.engine d = false) :
      Ticked s (some FAILED) { s with store := store }
  | refused (store : Store) (reports : Store.Reports s.store store) (d : ConfigVersion)
      (changes : Fields)
      (target : r.target s.store = some d) (new : some d.id ≠ s.appliedVersionId)
      (sent : r.request d = some changes) (short : r.reaches s.engine d = false) :
      Ticked s (some FAILED)
        { s with store := store, engine := final (r.adapter.setHot changes) s.engine }
  | done (store : Store) (reports : Store.Reports s.store store) (d : ConfigVersion)
      (target : r.target s.store = some d) (new : some d.id ≠ s.appliedVersionId)
      (result : String) (engine : σ) (reached : r.reaches s.engine d = true)
      (sent : engine = match r.request d with
        | some changes => final (r.adapter.setHot changes) s.engine
        | none => s.engine)
      (clean : (badOf (r.manifest.validate d.fields).2).entries = [])
      (verdict : result = HEALTHY ↔ (coldOf (r.manifest.validate d.fields).2).entries = [])
      (holds : ∀ k v, (r.manifest.validate d.fields).1.get? k = some v →
        r.adapter.live engine k = some (r.adapter.stored k v)) :
      Ticked s (some result) ⟨store, some d.id, engine⟩

theorem request_eq_none_of_bad {d : ConfigVersion}
    (hb : (badOf (r.manifest.validate d.fields).2).entries.isEmpty = false) :
    r.request d = none := by
  simp [request, hb]

theorem request_eq {d : ConfigVersion}
    (hb : (badOf (r.manifest.validate d.fields).2).entries.isEmpty = true) :
    r.request d = if (r.manifest.validate d.fields).1.entries.isEmpty then none
      else some (r.manifest.validate d.fields).1 := by
  cases h : (r.manifest.validate d.fields).1.entries.isEmpty <;> simp [request, hb, h]

theorem conclude_failed (s : Reconciling σ) (d : ConfigVersion) (cold : Dict String String)
    {result : ApplyResult} (hok : result.ok = false) :
    ∃ store, Store.Reports s.store store ∧
      (r.conclude d cold result).run s = .ok FAILED { s with store := store } := by
  refine ⟨Store.recorded s.store r.replicaId r.group s.appliedVersionId FAILED
    ("engine rejected " ++ reprDict result.rejected.entries), Store.reports_recorded _ _ _ _ _ _, ?_⟩
  simp only [concludeOver, hok, Bool.not_false, if_true, EStateM.run_bind, EStateM.run_get, recordOver_run]
  rfl

theorem conclude_applied (s : Reconciling σ) (d : ConfigVersion) (cold : Dict String String)
    {result : ApplyResult} (hok : result.ok = true) :
    ∃ store verdict, Store.Reports s.store store ∧ (verdict = HEALTHY ↔ cold.entries = []) ∧
      (r.conclude d cold result).run s = .ok verdict ⟨store, some d.id, s.engine⟩ := by
  cases hcold : cold.entries with
  | nil =>
    refine ⟨Store.recorded s.store r.replicaId r.group (some d.id) HEALTHY "", HEALTHY,
      Store.reports_recorded _ _ _ _ _ _,
      by simp, ?_⟩
    simp only [concludeOver, hok, hcold, List.isEmpty_nil, Bool.not_true, Bool.false_eq_true, if_false,
      EStateM.run_bind, EStateM.run_modify, recordOver_run]
    rfl
  | cons p ps =>
    refine ⟨Store.recorded s.store r.replicaId r.group (some d.id) NEEDS_REINIT
      ("cold fields pending " ++ reprList (cold.keys.insertionSort (· ≤ ·))), NEEDS_REINIT,
      Store.reports_recorded _ _ _ _ _ _, by simp [HEALTHY, NEEDS_REINIT], ?_⟩
    simp only [concludeOver, hok, hcold, List.isEmpty_cons, Bool.not_true, Bool.not_false, if_true,
      Bool.false_eq_true, if_false, EStateM.run_bind, EStateM.run_modify, recordOver_run]
    rfl

/-- The manifest rejects a field, and the tick ends there. -/
theorem ticked_of_bad {s : Reconciling σ} {d : ConfigVersion}
    (htarget : r.target s.store = some d) (hnew : some d.id ≠ s.appliedVersionId)
    (hb : (badOf (r.manifest.validate d.fields).2).entries.isEmpty = false) :
    Ticked r s (value? (r.converge d) s) (final (r.converge d) s) := by
  have hrun : (r.converge d).run s = .ok FAILED { s with
      store := Store.recorded s.store r.replicaId r.group s.appliedVersionId FAILED
        ("manifest rejected " ++ reprDict (badOf (r.manifest.validate d.fields).2).entries) } := by
    simp only [convergeOver, EStateM.run_bind, EStateM.run_get, hb, Bool.not_false, if_true,
      recordOver_run]
    rfl
  rw [value?, hrun, final_of_ok hrun]
  exact .rejected _ (Store.reports_recorded _ _ _ _ _ _) d htarget hnew
    (r.request_eq_none_of_bad hb) (by rw [reaches, hb, Bool.false_and])

/-- The tick has begun: it sends what there is to send, and concludes. -/
theorem converge_begun {s : Reconciling σ} {d : ConfigVersion}
    (hb : (badOf (r.manifest.validate d.fields).2).entries.isEmpty = true) :
    (r.converge d).run s =
      (do let result ← if (r.manifest.validate d.fields).1.entries.isEmpty then
              pure (ApplyResult.mk true ∅ ∅)
            else onEngine (r.adapter.setHot (r.manifest.validate d.fields).1)
          r.conclude d (coldOf (r.manifest.validate d.fields).2) result).run
        { s with store :=
            Store.recorded s.store r.replicaId r.group s.appliedVersionId APPLYING "" } := by
  simp only [convergeOver, EStateM.run_bind, EStateM.run_get, hb, Bool.not_true,
    Bool.false_eq_true, if_false, recordOver_run]

theorem ticked_of_converge {s : Reconciling σ} {d : ConfigVersion}
    (htarget : r.target s.store = some d) (hnew : some d.id ≠ s.appliedVersionId) :
    Ticked r s (value? (r.converge d) s) (final (r.converge d) s) := by
  have hadmits := validate_admits r.manifest d.fields
  cases hb : (badOf (r.manifest.validate d.fields).2).entries.isEmpty with
  | false => exact r.ticked_of_bad htarget hnew hb
  | true =>
    have hreq := r.request_eq hb
    have hclean := List.isEmpty_iff.mp hb
    let begun : Reconciling σ := { s with
      store := Store.recorded s.store r.replicaId r.group s.appliedVersionId APPLYING "" }
    have hrun := r.converge_begun (s := s) hb
    have hbegun : Store.Reports s.store begun.store := Store.reports_recorded _ _ _ _ _ _
    cases he : (r.manifest.validate d.fields).1.entries.isEmpty with
    | true =>
      have hok : (ApplyResult.mk true ∅ ∅).ok = true := rfl
      obtain ⟨store, verdict, hreports, hverdict, hend⟩ := r.conclude_applied begun d
        (coldOf (r.manifest.validate d.fields).2) hok
      rw [he, if_pos rfl, pure_bind, hend] at hrun
      rw [value?, hrun, final_of_ok hrun]
      rw [he, if_pos rfl] at hreq
      refine .done store (Store.reports_trans hbegun hreports) d htarget hnew verdict s.engine
        (by rw [reaches, hb, hreq]; rfl) (by rw [hreq]) hclean hverdict fun k v hk => ?_
      rw [Dict.get?_eq_some_iff, List.isEmpty_iff.mp he] at hk
      cases hk
    | false =>
      obtain ⟨answer, hanswer, -⟩ := r.adapter.answers _ s.engine hadmits
      let after : Reconciling σ := { begun with
        engine := final (r.adapter.setHot (r.manifest.validate d.fields).1) s.engine }
      have hset :
          (onEngine (r.adapter.setHot (r.manifest.validate d.fields).1) : LoopM σ _).run begun =
          .ok answer after := by
        rw [onEngine, zoom_run, hanswer]
      rw [he, if_neg (by simp), EStateM.run_bind, hset] at hrun
      rw [he, if_neg (by simp)] at hreq
      have hreaches : r.reaches s.engine d = answer.ok := by
        rw [reaches, hb, Bool.true_and, hreq]
        exact congrArg (Option.any (·.ok)) (value?_eq_some_iff.mpr hanswer)
      cases hok : answer.ok with
      | false =>
        obtain ⟨store, hreports, hend⟩ := r.conclude_failed after d
          (coldOf (r.manifest.validate d.fields).2) hok
        have hrun := hrun.trans hend
        rw [value?, hrun, final_of_ok hrun]
        exact .refused store (Store.reports_trans hbegun hreports) d _ htarget hnew hreq
          (hreaches.trans hok)
      | true =>
        obtain ⟨store, verdict, hreports, hverdict, hend⟩ := r.conclude_applied after d
          (coldOf (r.manifest.validate d.fields).2) hok
        have hrun := hrun.trans hend
        rw [value?, hrun, final_of_ok hrun]
        exact .done store (Store.reports_trans hbegun hreports) d htarget hnew verdict after.engine
          (hreaches.trans hok) (by rw [hreq]) hclean hverdict
          fun k v hk => r.adapter.live_of_ok hadmits hanswer hok hk

theorem tick_ticked (s : Reconciling σ) : Ticked r s (value? r.tick s) (final r.tick s) := by
  have hread : (onStore (Store.desiredFor r.replicaId r.group) : LoopM σ _).run s =
      match (Store.desiredFor r.replicaId r.group).run s.store with
      | .ok d t => .ok d { s with store := t }
      | .error e t => .error e { s with store := t } := by
    rw [onStore, zoom_run]
    cases (Store.desiredFor r.replicaId r.group).run s.store <;> rfl
  rcases Store.desiredFor_reads s.store r.replicaId r.group with ⟨d, hd⟩ | ⟨e, he⟩
  · rw [hd] at hread
    cases d with
    | none =>
      have hrun : r.tick.run s = .ok HEALTHY { s with
          store := Store.recorded s.store r.replicaId r.group s.appliedVersionId HEALTHY "" } := by
        simp only [tick, tickOver, EStateM.run_bind, hread, EStateM.run_get, recordOver_run]
        rfl
      rw [value?, hrun, final_of_ok hrun]
      refine .idle _ (Store.reports_recorded _ _ _ _ _ _) fun d ht => ?_
      rw [target, Store.target_eq_some, hd] at ht
      cases ht
    | some d =>
      have htarget : r.target s.store = some d := Store.target_eq_some.mpr hd
      by_cases hnew : some d.id = s.appliedVersionId
      · have hrun : r.tick.run s = .ok HEALTHY { s with
            store := Store.recorded s.store r.replicaId r.group s.appliedVersionId HEALTHY "" } := by
          simp only [tick, tickOver, EStateM.run_bind, hread, EStateM.run_get, hnew, if_true, recordOver_run]
          rfl
        rw [value?, hrun, final_of_ok hrun]
        refine .idle _ (Store.reports_recorded _ _ _ _ _ _) fun d' ht => ?_
        rw [htarget] at ht
        cases ht
        exact hnew
      · have hrun : r.tick.run s = (r.converge d).run s := by
          simp only [tick, tickOver, EStateM.run_bind, hread, EStateM.run_get, hnew, if_false]
        have hc := r.ticked_of_converge htarget hnew
        rwa [value?, final, ← hrun] at hc
  · rw [he] at hread
    have hrun : r.tick.run s = .error e s := by
      simp only [tick, tickOver, EStateM.run_bind, hread]
    rw [value?, hrun, final_of_error hrun]
    exact .raised (by rw [value?, he])

end Reconciler
end Trimtab
