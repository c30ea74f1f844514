import Trimtab.GroupFrame
import Trimtab.ReconcilerTruth
import Mathlib.Logic.Function.Basic

set_option autoImplicit false

/-!
# Replicas over one store

Every replica has a reconciler and an engine of its own; they share the store and nothing
else. A replica reaches the others through its status row alone.
-/
namespace Trimtab.ReplicaFleet
open Effects PyText Runs StoreHistory Reconciler

variable {σ ι : Type}

structure Replica (σ : Type) where
  appliedVersionId : Option Int
  engine : σ

structure Fleet (σ : Type) where
  store : Store
  replicas : String → Replica σ

namespace Fleet

def view (f : Fleet σ) (id : String) : Reconciling σ :=
  ⟨f.store, (f.replicas id).appliedVersionId, (f.replicas id).engine⟩

def put (f : Fleet σ) (id : String) (s : Reconciling σ) : Fleet σ :=
  ⟨s.store, Function.update f.replicas id ⟨s.appliedVersionId, s.engine⟩⟩

@[simp] theorem view_put (f : Fleet σ) (id : String) (s : Reconciling σ) :
    (f.put id s).view id = s := by
  simp only [view, put, Function.update_self]

theorem view_put_of_ne (f : Fleet σ) {id j : String} (h : id ≠ j) (s : Reconciling σ) :
    (f.put j s).view id = { f.view id with store := s.store } := by
  simp only [view, put, Function.update_of_ne h]

end Fleet

inductive Event (ι : Type) where
  | plane (op : PlaneOp)
  | own (id : String) (step : ι)
  | tick (id : String)

variable (r : String → Reconciler σ ι)

def step (f : Fleet σ) : Event ι → Fleet σ
  | .plane op => { f with store := op.apply f.store }
  | .own id i => f.put id { f.view id with engine := (r id).adapter.own i (f.view id).engine }
  | .tick id => f.put id (final (r id).tick (f.view id))

/-! ## A tick is one report to the store -/

section Report

variable (r : Reconciler σ ι)

/-- The program returns after a report of what it returns and of the version it remembers,
which leaves the store as if there had been no other since `before`. A failure leaves the memory
alone. -/
def Reported (before : Reconciling σ) (result : EStateM.Result PyErr (Reconciling σ) String) :
    Prop :=
  ∃ state detail t, result = .ok state t ∧
    t.store = before.store.recorded r.replicaId r.group t.appliedVersionId state detail ∧
    (state = FAILED → t.appliedVersionId = before.appliedVersionId)

def Over (before s : Reconciling σ) : Prop :=
  ∀ applied state detail, s.store.recorded r.replicaId r.group applied state detail =
    before.store.recorded r.replicaId r.group applied state detail

theorem reported_record {before s : Reconciling σ} (state detail : String) (hs : Over r before s)
    (hfailed : state = FAILED → s.appliedVersionId = before.appliedVersionId) :
    Reported r before ((do
      r.record s.appliedVersionId state detail
      return state : LoopM σ String).run s) := by
  refine ⟨state, detail, { s with
    store := s.store.recorded r.replicaId r.group s.appliedVersionId state detail }, ?_,
    hs s.appliedVersionId state detail, hfailed⟩
  simp only [EStateM.run_bind, recordOver_run]
  rfl

theorem conclude_reported {before s : Reconciling σ} (d : ConfigVersion)
    (cold : Dict String String) (result : ApplyResult) (hs : Over r before s)
    (hmemo : s.appliedVersionId = before.appliedVersionId) :
    Reported r before ((r.conclude d cold result).run s) := by
  cases hok : result.ok with
  | false =>
    have hr := reported_record r FAILED ("engine rejected " ++ reprDict result.rejected.entries)
      hs fun _ => hmemo
    simp only [concludeOver, hok, Bool.not_false, if_true, EStateM.run_bind, EStateM.run_get]
    exact hr
  | true =>
    simp only [concludeOver, hok, Bool.not_true, Bool.false_eq_true, if_false, EStateM.run_bind,
      EStateM.run_modify]
    have happlied : Over r before { s with appliedVersionId := some d.id } := hs
    cases hcold : cold.entries.isEmpty with
    | true => exact reported_record r HEALTHY "" happlied fun h => absurd h (by decide)
    | false => exact reported_record r NEEDS_REINIT _ happlied fun h => absurd h (by decide)

theorem converge_reported (s : Reconciling σ) (d : ConfigVersion) :
    Reported r s ((r.converge d).run s) := by
  simp only [convergeOver, EStateM.run_bind, EStateM.run_get]
  cases hb : (badOf (r.manifest.validate d.fields).2).entries.isEmpty with
  | false => exact reported_record r FAILED _ (fun _ _ _ => rfl) fun _ => rfl
  | true =>
    let begun : Reconciling σ := { s with
      store := s.store.recorded r.replicaId r.group s.appliedVersionId APPLYING "" }
    have hbegun : Over r s begun := fun _ _ _ => Store.recorded_recorded ..
    simp only [Bool.not_true, Bool.false_eq_true, if_false, EStateM.run_bind, recordOver_run]
    cases he : (r.manifest.validate d.fields).1.entries.isEmpty with
    | true =>
      simp only [if_true, pure_bind]
      exact conclude_reported r (s := begun) d _ _ hbegun rfl
    | false =>
      obtain ⟨answer, hanswer, -⟩ :=
        r.adapter.answers _ s.engine (validate_admits r.manifest d.fields)
      have hsent : (onEngine (r.adapter.setHot (r.manifest.validate d.fields).1) :
          LoopM σ _).run begun = .ok answer { begun with
            engine := final (r.adapter.setHot (r.manifest.validate d.fields).1) s.engine } := by
        rw [onEngine, zoom_run, hanswer]
      simp only [Bool.false_eq_true, if_false, begun] at hsent ⊢
      rw [EStateM.run_bind, hsent]
      exact conclude_reported r (s := { begun with
        engine := final (r.adapter.setHot (r.manifest.validate d.fields).1) s.engine }) d _ _
        hbegun rfl

/-- A tick raises with all as it was, or reports once. -/
theorem tick_reported (s : Reconciling σ) :
    (∃ e, r.tick.run s = .error e s) ∨ Reported r s (r.tick.run s) := by
  have hread : (onStore (Store.desiredFor r.replicaId r.group) : LoopM σ _).run s =
      match (Store.desiredFor r.replicaId r.group).run s.store with
      | .ok d t => .ok d { s with store := t }
      | .error e t => .error e { s with store := t } := by
    rw [onStore, zoom_run]
    cases (Store.desiredFor r.replicaId r.group).run s.store <;> rfl
  rcases Store.desiredFor_reads s.store r.replicaId r.group with ⟨d, hd⟩ | ⟨e, he⟩
  · refine .inr ?_
    rw [hd] at hread
    simp only [tick, tickOver, EStateM.run_bind, hread, EStateM.run_get]
    cases d with
    | none => exact reported_record r HEALTHY "" (fun _ _ _ => rfl) fun _ => rfl
    | some d =>
      by_cases hnew : some d.id = s.appliedVersionId
      · simp only [hnew, if_true]
        exact reported_record r HEALTHY "" (fun _ _ _ => rfl) fun _ => rfl
      · simp only [hnew, if_false]
        exact converge_reported r s d
  · refine .inl ⟨e, ?_⟩
    rw [he] at hread
    simp only [tick, tickOver, EStateM.run_bind, hread]

end Report

/-! ## Each replica for itself -/

def report (r : Reconciler σ ι) (s : Reconciling σ) : List (ReconcilerTruth.Event ι) :=
  ((value? r.tick s).bind fun _ =>
    (final r.tick s).store.replicaStatus.get? r.replicaId).toList.map fun row =>
      .plane (.store (.recordStatus r.replicaId row.replicaGroup row.appliedVersionId row.state
        row.detail))

/-- A report reaches the store of another replica, and nothing else of it. -/
theorem run_report (q p : Reconciler σ ι) {s t : Reconciling σ} (hs : t.store = s.store) :
    run (ReconcilerTruth.step q) t (report p s) = { t with store := (final p.tick s).store } := by
  unfold report value? final
  rcases tick_reported p s with ⟨e, he⟩ | ⟨state, detail, u, hu, hstore, -⟩
  · rw [he, ← hs]
    rfl
  · rw [hu]
    simp only [Option.bind_some, hstore, Store.recorded, Dict.get?_insert_self, Option.toList_some,
      List.map_cons, List.map_nil, run_cons, run_nil, ← hs]
    rfl

def seen (id : String) (f : Fleet σ) : Event ι → List (ReconcilerTruth.Event ι)
  | .plane op => [.plane op]
  | .own j i => if j = id then [.own i] else []
  | .tick j => if j = id then [.tick] else report (r j) (f.view j)

theorem view_step (id : String) (f : Fleet σ) (e : Event ι) :
    (step r f e).view id = run (ReconcilerTruth.step (r id)) (f.view id) (seen r id f e) := by
  cases e with
  | plane op => rfl
  | own j i =>
    by_cases hj : j = id
    · subst hj
      rw [step, Fleet.view_put, seen, if_pos rfl]
      rfl
    · rw [step, Fleet.view_put_of_ne f (Ne.symm hj), seen, if_neg hj]
      rfl
  | tick j =>
    by_cases hj : j = id
    · subst hj
      rw [step, Fleet.view_put, seen, if_pos rfl]
      rfl
    · rw [step, Fleet.view_put_of_ne f (Ne.symm hj), seen, if_neg hj]
      exact (run_report (r id) (r j) (s := f.view j) (t := f.view id) rfl).symm

/-- Each replica of a fleet does what it would do alone beside a control plane to which the
status reports of the others belong. -/
theorem replica_alone (id : String) (f : Fleet σ) (es : List (Event ι)) :
    (run (step r) f es).view id = run (ReconcilerTruth.step (r id)) (f.view id)
      (trace (step r) (seen r id) f es) :=
  @run_refines _ _ _ _ _ _ _ (fun h : Fleet σ => h.view id) (fun _ => True) (fun _ _ _ => trivial)
    (fun g e _ => view_step r id g e) f trivial es

/-! ## What the status table says of a rollout -/

def Shows (f : Fleet σ) (id : String) (v : Int) : Prop :=
  ∃ rows row, value? (Store.status (r id).group) f.store = some rows ∧ (id, row) ∈ rows ∧
    row.appliedVersionId = some v

theorem shows_iff {f : Fleet σ} {id : String} {v : Int} : Shows r f id v ↔
    ∃ row, f.store.replicaStatus.get? id = some row ∧ row.replicaGroup = (r id).group ∧
      row.appliedVersionId = some v := by
  have hmem : ∀ row, (id, row) ∈ (f.store.replicaStatus.entries.filter fun q =>
      q.2.replicaGroup = (r id).group).insertionSort (fun a b => a.1 ≤ b.1) ↔
        f.store.replicaStatus.get? id = some row ∧ row.replicaGroup = (r id).group := fun row => by
    rw [List.mem_insertionSort, List.mem_filter, decide_eq_true_eq, Dict.get?_eq_some_iff]
  constructor
  · rintro ⟨rows, row, hrows, hrow, hv⟩
    rw [value?, Store.status_run, Option.some.injEq] at hrows
    rw [← hrows, hmem] at hrow
    exact ⟨row, hrow.1, hrow.2, hv⟩
  · rintro ⟨row, hrow, hgroup, hv⟩
    exact ⟨_, row, rfl, (hmem row).mpr ⟨hrow, hgroup⟩, hv⟩

/-- Nobody but the replica reports in its name. -/
def Unforged (id : String) : Event ι → Prop
  | .plane (.store (.recordStatus j _ _ _ _)) => j ≠ id
  | _ => True

def Finds (id : String) (d : ConfigVersion) (f : Fleet σ) : Event ι → Prop
  | .tick j => j = id → (r id).target f.store = some d
  | _ => True

def Aims (id : String) (d : ConfigVersion) (f : Fleet σ) (e : Event ι) : Prop :=
  Unforged id e ∧ Finds r id d f e

def Lands (id : String) (f : Fleet σ) (e : Event ι) : Prop :=
  e = .tick id ∧ value? (r id).tick (f.view id) ≠ some FAILED

structure Settled (id : String) (d : ConfigVersion) (f : Fleet σ) : Prop where
  remembered : (f.replicas id).appliedVersionId = some d.id
  shown : Shows r f id d.id
  inForce : (r id).adapter.InForce (f.replicas id).engine d.fields

structure Ahead (id : String) (v : Int) (f : Fleet σ) : Prop where
  memory : (f.replicas id).appliedVersionId ≠ some v
  silent : ¬Shows r f id v

/-- No client's call writes a status row. -/
theorem client_status (s : Store) (op : ClientOp) :
    (op.apply s).replicaStatus = s.replicaStatus := by
  have hne : ∀ group : String, group ++ "x" ≠ group := fun group h => by
    simpa using congrArg String.length h
  cases op with
  | propose group fields createdBy reason =>
    rw [ClientOp.apply, ClientOp.exec, final_discard]
    exact (GroupFrame.propose_apart (hne group) s fields createdBy reason).status
  | promote group versionId => exact (GroupFrame.promote_apart (hne group) s versionId).status
  | rollback group versionId => exact (GroupFrame.promote_apart (hne group) s versionId).status
  | start c candidateVersionId scope gates windowS =>
    rw [ClientOp.apply, ClientOp.exec, final_discard]
    exact (GroupFrame.start_apart c.group c s candidateVersionId scope gates windowS).1.status
  | observe c metrics sleep canaryId samples =>
    rw [ClientOp.apply, ClientOp.exec, final_discard]
    exact (GroupFrame.observe_apart (hne c.group) s metrics sleep canaryId samples).1.status
  | decide c canaryId canaryMetrics baselineMetrics =>
    rw [ClientOp.apply, ClientOp.exec, final_discard]
    exact (GroupFrame.decide_apart (hne c.group) s canaryId canaryMetrics baselineMetrics).1.status
  | abort canaryId reason =>
    have hrun := Canary.abort_run s canaryId reason
    rw [ClientOp.apply, ClientOp.exec]
    split at hrun
    · rw [final_of_ok hrun]
      rfl
    · rw [final_of_error hrun]

variable {r} {id : String} {d : ConfigVersion}

theorem plane_row (s : Store) (op : PlaneOp)
    (h : ∀ j group applied state detail,
      op = .store (.recordStatus j group applied state detail) → j ≠ id) :
    (op.apply s).replicaStatus.get? id = s.replicaStatus.get? id := by
  cases op with
  | client op => exact congrArg (Dict.get? · id) (client_status s op)
  | store op =>
    cases op with
    | propose group fields createdBy reason =>
      exact congrArg (Dict.get? · id) (client_status s (.propose group fields createdBy reason))
    | promote group versionId =>
      exact congrArg (Dict.get? · id) (client_status s (.promote group versionId))
    | rollback group versionId =>
      exact congrArg (Dict.get? · id) (client_status s (.rollback group versionId))
    | setOverrides replicaIds versionId canaryId =>
      rw [PlaneOp.apply, StoreHistory.apply, StoreOp.exec]
      rcases Store.setOverrides_final s replicaIds versionId canaryId with h | h <;> rw [h]
    | clearOverrides canaryId =>
      rw [PlaneOp.apply, StoreHistory.apply, StoreOp.exec]
      rcases Store.clearOverrides_final s canaryId with h | h <;> rw [h]
    | openCanary group candidateId scope gates windowS =>
      rw [PlaneOp.apply, StoreHistory.apply, StoreOp.exec, final_discard]
      rcases Store.openCanary_final s group candidateId scope gates windowS with h | ⟨base, -, h⟩ <;>
        rw [h]
    | closeCanary canaryId status decision =>
      rw [PlaneOp.apply, StoreHistory.apply, StoreOp.exec, Store.closeCanary_final]
    | recordStatus j group applied state detail =>
      exact Dict.get?_insert_of_ne _ _ (Ne.symm (h j group applied state detail rfl))

/-- What an event that is no tick of `id` leaves alone. -/
theorem aside_step (hid : ∀ j, (r j).replicaId = j) {f : Fleet σ} {e : Event ι}
    (ha : Unforged id e) (he : e ≠ .tick id) :
    ((step r f e).replicas id).appliedVersionId = (f.replicas id).appliedVersionId ∧
      (step r f e).store.replicaStatus.get? id = f.store.replicaStatus.get? id ∧
      (r id).adapter.live ((step r f e).replicas id).engine =
        (r id).adapter.live (f.replicas id).engine := by
  cases e with
  | plane op =>
    refine ⟨rfl, plane_row f.store op fun j group applied state detail hop => ?_, rfl⟩
    subst hop
    exact ha
  | own j i =>
    by_cases hj : j = id
    · subst hj
      simp only [step, Fleet.put, Function.update_self, Fleet.view, (r j).adapter.live_own,
        and_self]
    · simp only [step, Fleet.put, Function.update_of_ne (Ne.symm hj), Fleet.view, and_self]
  | tick j =>
    have hj : id ≠ j := fun h => he (by rw [h])
    refine ⟨?_, ?_, ?_⟩
    · simp only [step, Fleet.put, Function.update_of_ne hj]
    · change (final (r j).tick (f.view j)).store.replicaStatus.get? id = _
      rcases tick_reported (r j) (f.view j) with ⟨e, herr⟩ | ⟨state, detail, t, ht, hstore, -⟩
      · rw [final_of_error herr]
        rfl
      · rw [final_of_ok ht, hstore, hid j]
        exact Dict.get?_insert_of_ne _ _ hj
    · simp only [step, Fleet.put, Function.update_of_ne hj]

/-- After a tick the table has the version that the replica remembers. -/
theorem row_tick (hid : ∀ j, (r j).replicaId = j) {f : Fleet σ} {state : String}
    (hstate : value? (r id).tick (f.view id) = some state) : ∃ detail,
    (step r f (.tick id)).store.replicaStatus.get? id = some ⟨(r id).group,
      ((step r f (.tick id)).replicas id).appliedVersionId, state, detail⟩ := by
  simp only [step, Fleet.put, Function.update_self]
  rcases tick_reported (r id) (f.view id) with ⟨e, herr⟩ | ⟨state', detail, t, ht, hstore, -⟩
  · rw [value?, herr] at hstate
    cases hstate
  · rw [value?, ht, Option.some.injEq] at hstate
    rw [final_of_ok ht, hstore, hid id, hstate]
    exact ⟨detail, Dict.get?_insert_self _ _ _⟩

theorem shows_tick (hid : ∀ j, (r j).replicaId = j) {f : Fleet σ} {state : String}
    (hstate : value? (r id).tick (f.view id) = some state) (v : Int) :
    Shows r (step r f (.tick id)) id v ↔
      ((step r f (.tick id)).replicas id).appliedVersionId = some v := by
  obtain ⟨detail, hrow⟩ := row_tick hid hstate
  rw [shows_iff, hrow]
  simp only [Option.some.injEq, exists_eq_left', true_and]

theorem tick_failed (r : Reconciler σ ι) (s : Reconciling σ) (h : value? r.tick s = some FAILED) :
    (final r.tick s).appliedVersionId = s.appliedVersionId := by
  rcases tick_reported r s with ⟨e, he⟩ | ⟨state, detail, t, ht, -, hmemo⟩
  · rw [final_of_error he]
  · rw [value?, ht] at h
    rw [final_of_ok ht]
    exact hmemo (Option.some.inj h)

/-- The early exit. -/
theorem tick_at_rest (r : Reconciler σ ι) {s : Reconciling σ} (htarget : r.target s.store = some d)
    (hmemo : s.appliedVersionId = some d.id) :
    value? r.tick s = some HEALTHY ∧ (final r.tick s).engine = s.engine := by
  have ht := r.tick_ticked s
  generalize value? r.tick s = result at ht ⊢
  generalize final r.tick s = t at ht ⊢
  have hold : ∀ d', r.target s.store = some d' → ¬some d'.id ≠ s.appliedVersionId := by
    intro d' h hne
    rw [htarget, Option.some.injEq] at h
    exact hne (by rw [← h, hmemo])
  cases ht with
  | raised unread =>
    rw [target, Store.target, unread] at htarget
    cases htarget
  | idle store reports exit => exact ⟨rfl, rfl⟩
  | rejected store reports d' target new unsent short => exact absurd new (hold d' target)
  | refused store reports d' changes target new sent short => exact absurd new (hold d' target)
  | done store reports d' target new state engine reached sent clean verdict holds =>
    exact absurd new (hold d' target)

/-- A tick towards `d` fails and leaves the memory alone, or it ends with `d` in force. -/
theorem tick_towards (hm : (r id).manifest.PlainChoices) {f : Fleet σ}
    (htarget : (r id).target f.store = some d)
    (hmemo : (f.replicas id).appliedVersionId = some d.id →
      (r id).adapter.InForce (f.replicas id).engine d.fields) :
    (value? (r id).tick (f.view id) = some FAILED ∧
      (f.replicas id).appliedVersionId ≠ some d.id ∧
      ((step r f (.tick id)).replicas id).appliedVersionId =
        (f.replicas id).appliedVersionId) ∨
    (∃ state, value? (r id).tick (f.view id) = some state ∧ state ≠ FAILED ∧
      ((step r f (.tick id)).replicas id).appliedVersionId = some d.id ∧
      (r id).adapter.InForce ((step r f (.tick id)).replicas id).engine d.fields) := by
  have ht := (r id).tick_ticked (f.view id)
  have hfailed := tick_failed (r id) (f.view id)
  simp only [step, Fleet.put, Function.update_self]
  generalize value? (r id).tick (f.view id) = result at ht hfailed ⊢
  generalize final (r id).tick (f.view id) = t at ht hfailed ⊢
  have htarget' : (r id).target (f.view id).store = some d := htarget
  cases ht with
  | raised unread =>
    rw [target, Store.target, unread] at htarget'
    cases htarget'
  | idle store reports exit =>
    have hmem := exit d htarget'
    exact .inr ⟨HEALTHY, rfl, by decide, hmem.symm, hmemo hmem.symm⟩
  | rejected store reports d' target new unsent short =>
    obtain rfl : d = d' := Option.some.inj (htarget'.symm.trans target)
    exact .inl ⟨rfl, Ne.symm new, rfl⟩
  | refused store reports d' changes target new sent short =>
    obtain rfl : d = d' := Option.some.inj (htarget'.symm.trans target)
    exact .inl ⟨rfl, Ne.symm new, rfl⟩
  | done store reports d' target new state engine reached sent clean verdict holds =>
    obtain rfl : d = d' := Option.some.inj (htarget'.symm.trans target)
    refine .inr ⟨state, rfl, fun h => new (hfailed (congrArg some h)), rfl, fun k v hk hcw => ?_⟩
    exact holds k v (ReconcilerTruth.accepted_of_clean hm clean hk hcw)

theorem settled_of_lands (hid : ∀ j, (r j).replicaId = j) (hm : (r id).manifest.PlainChoices)
    {f : Fleet σ} (ha : Aims r id d f (.tick id))
    (hmemo : (f.replicas id).appliedVersionId = some d.id →
      (r id).adapter.InForce (f.replicas id).engine d.fields)
    (hlands : value? (r id).tick (f.view id) ≠ some FAILED) :
    Settled r id d (step r f (.tick id)) := by
  rcases tick_towards hm (ha.2 rfl) hmemo with ⟨hfailed, -⟩ | ⟨state, hstate, -, hmem, hforce⟩
  · exact absurd hfailed hlands
  · exact ⟨hmem, (shows_tick hid hstate d.id).mpr hmem, hforce⟩

theorem settled_step (hid : ∀ j, (r j).replicaId = j) (hm : (r id).manifest.PlainChoices)
    {f : Fleet σ} {e : Event ι} (hs : Settled r id d f) (ha : Aims r id d f e) :
    Settled r id d (step r f e) := by
  by_cases he : e = .tick id
  · subst he
    refine settled_of_lands hid hm ha (fun _ => hs.inForce) fun hfailed => ?_
    rcases tick_towards hm (ha.2 rfl) (fun _ => hs.inForce) with ⟨-, hne, -⟩ | ⟨state, hstate, hne, -⟩
    · exact hne hs.remembered
    · exact hne (Option.some.inj (hstate.symm.trans hfailed))
  · obtain ⟨hmem, hrow, hlive⟩ := aside_step (f := f) hid ha.1 he
    refine ⟨hmem.trans hs.remembered, ?_, fun k v hk hcw => ?_⟩
    · rw [shows_iff, hrow]
      exact (shows_iff r).mp hs.shown
    · rw [hlive]
      exact hs.inForce k v hk hcw

theorem ahead_step (hid : ∀ j, (r j).replicaId = j) (hm : (r id).manifest.PlainChoices)
    {f : Fleet σ} {e : Event ι} (hs : Ahead r id d.id f) (ha : Aims r id d f e)
    (hlands : ¬Lands r id f e) : Ahead r id d.id (step r f e) := by
  by_cases he : e = .tick id
  · subst he
    have hfailed : value? (r id).tick (f.view id) = some FAILED :=
      not_not.mp fun h => hlands ⟨rfl, h⟩
    rcases tick_towards hm (ha.2 rfl) (fun h => absurd h hs.memory) with
      ⟨-, hne, hmem⟩ | ⟨state, hstate, hne, -⟩
    · have hnew : ((step r f (.tick id)).replicas id).appliedVersionId ≠ some d.id := hmem ▸ hne
      exact ⟨hnew, fun h => hnew ((shows_tick hid hfailed d.id).mp h)⟩
    · exact absurd (Option.some.inj (hstate.symm.trans hfailed)) hne
  · obtain ⟨hmem, hrow, -⟩ := aside_step (f := f) hid ha.1 he
    refine ⟨hmem ▸ hs.memory, fun h => hs.silent ?_⟩
    rw [shows_iff, hrow] at h
    exact (shows_iff r).mpr h

/-- Along a rollout a replica is ahead of it until a tick of it lands, and settled from then on. -/
theorem rollout_run (hid : ∀ j, (r j).replicaId = j) (hm : (r id).manifest.PlainChoices)
    {f : Fleet σ} {es : List (Event ι)} (hs : Ahead r id d.id f)
    (ha : Along (step r) (Aims r id d) f es) :
    ((∃ before e after, es = before ++ e :: after ∧ Lands r id (run (step r) f before) e) ∧
        Settled r id d (run (step r) f es)) ∨
      (Along (step r) (fun f e => ¬Lands r id f e) f es ∧ Ahead r id d.id (run (step r) f es)) := by
  induction es generalizing f with
  | nil => exact .inr ⟨trivial, hs⟩
  | cons e es ih =>
    by_cases hlands : Lands r id f e
    · refine .inl ⟨⟨[], e, es, rfl, hlands⟩, ?_⟩
      obtain ⟨rfl, hok⟩ := hlands
      have hnow := settled_of_lands hid hm ha.1 (fun h => absurd h hs.memory) hok
      rw [run_cons]
      exact run_invariant_along (fun _ _ hs ha => settled_step hid hm hs ha) ha.2 hnow
    · rcases ih (ahead_step hid hm hs ha.1 hlands) ha.2 with
        ⟨⟨before, e', after, rfl, hlater⟩, hend⟩ | ⟨hnone, hend⟩
      · exact .inl ⟨⟨e :: before, e', after, rfl, hlater⟩, hend⟩
      · exact .inr ⟨⟨hlands, hnone⟩, hend⟩

/-- What the status of a group says of a rollout is true. From a state in which a replica knows
nothing of `d`, and while its ticks find `d`, it is listed at `d` exactly when one of its ticks
has not failed; then `d` is in force, and the next tick says healthy and leaves the engine. -/
theorem rollout_observed (hid : ∀ j, (r j).replicaId = j) (hm : ∀ j, (r j).manifest.PlainChoices)
    (f : Fleet σ) (es : List (Event ι)) (id : String) (d : ConfigVersion)
    (hs : Ahead r id d.id f) (ha : Along (step r) (Aims r id d) f es) :
    (Shows r (run (step r) f es) id d.id ↔ ∃ before after, es = before ++ .tick id :: after ∧
        value? (r id).tick ((run (step r) f before).view id) ≠ some FAILED) ∧
      (Shows r (run (step r) f es) id d.id →
        (r id).adapter.InForce ((run (step r) f es).replicas id).engine d.fields ∧
        ((r id).target (run (step r) f es).store = some d →
          value? (r id).tick ((run (step r) f es).view id) = some HEALTHY ∧
          ((step r (run (step r) f es) (.tick id)).replicas id).engine =
            ((run (step r) f es).replicas id).engine)) := by
  have hend := rollout_run hid (hm id) hs ha
  have hsettled : Shows r (run (step r) f es) id d.id → Settled r id d (run (step r) f es) := by
    intro h
    rcases hend with ⟨-, hend⟩ | ⟨-, hend⟩
    · exact hend
    · exact absurd h hend.silent
  refine ⟨⟨fun h => ?_, ?_⟩, fun h => ⟨(hsettled h).inForce, fun htarget => ?_⟩⟩
  · rcases hend with ⟨⟨before, e, after, rfl, rfl, hok⟩, -⟩ | ⟨-, hend⟩
    · exact ⟨before, after, rfl, hok⟩
    · exact absurd h hend.silent
  · rintro ⟨before, after, hes, hok⟩
    rcases hend with ⟨-, hend⟩ | ⟨hnone, -⟩
    · exact hend.shown
    · exact absurd ⟨rfl, hok⟩ (along_iff.mp hnone before (.tick id) after hes)
  · have hmem := (hsettled h).remembered
    obtain ⟨hhealthy, hengine⟩ := tick_at_rest (r id) (s := (run (step r) f es).view id) htarget hmem
    refine ⟨hhealthy, ?_⟩
    simp only [step, Fleet.put, Function.update_self]
    exact hengine

/-! ## The status table is true of every replica -/

/-- The row of the replica, if it has one, has the version that it remembers. -/
def Listed (id : String) (f : Fleet σ) : Prop := ∀ row, f.store.replicaStatus.get? id = some row →
  row.appliedVersionId = (f.replicas id).appliedVersionId

theorem listed_step (hid : ∀ j, (r j).replicaId = j) {f : Fleet σ} {e : Event ι}
    (hs : Listed id f) (ha : Unforged id e) : Listed id (step r f e) := by
  by_cases he : e = .tick id
  · subst he
    cases hstate : value? (r id).tick (f.view id) with
    | some state =>
      obtain ⟨detail, hrow⟩ := row_tick hid hstate
      intro row h
      rw [hrow, Option.some.injEq] at h
      rw [← h]
    | none =>
      -- a tick that raises has written nothing
      rcases tick_reported (r id) (f.view id) with ⟨e, herr⟩ | ⟨state, detail, t, ht, -, -⟩
      · intro row h
        simp only [step, Fleet.put, Function.update_self, final_of_error herr] at h ⊢
        exact hs row h
      · rw [value?, ht] at hstate
        cases hstate
  · obtain ⟨hmem, hrow, -⟩ := aside_step (f := f) hid ha he
    intro row h
    rw [hrow] at h
    rw [hmem]
    exact hs row h

/-- Whatever is promoted, rolled back or tried out on the way: a replica that the status lists at a
version has it in force, unless a tick that did not reach its target has overwritten a field of
the version that the replica remembers. -/
theorem status_truthful (hid : ∀ j, (r j).replicaId = j) (hm : ∀ j, (r j).manifest.PlainChoices)
    (f : Fleet σ) (es : List (Event ι)) (id : String)
    (hstarted : (f.replicas id).appliedVersionId = none)
    (hnew : f.store.replicaStatus.get? id = none) (hown : ∀ e ∈ es, Unforged id e) (v : Int)
    (hfresh : (run (ReconcilerTruth.ghostStep (r id)) (f.view id, false)
      (trace (step r) (seen r id) f es)).2 = false)
    (hshown : Shows r (run (step r) f es) id v) :
    ∃ d, (run (step r) f es).store.find v = some d ∧
      (r id).adapter.InForce ((run (step r) f es).replicas id).engine d.fields := by
  have hlisted : Listed id (run (step r) f es) :=
    run_invariant_along (P := fun _ e => Unforged id e) (fun _ _ hs ha => listed_step hid hs ha)
      (along_of_mem hown) fun row h => by
        rw [hnew] at h
        cases h
  obtain ⟨row, hrow, -, hv⟩ := (shows_iff r).mp hshown
  have hmemo : ((run (step r) f es).view id).appliedVersionId = some v := by
    rw [← hv, hlisted row hrow]
    rfl
  have halone := replica_alone r id f es
  have htruth := ReconcilerTruth.truthful_run (r id) (hm id) (s := f.view id) hstarted
    (trace (step r) (seen r id) f es)
  have hfst : (run (ReconcilerTruth.ghostStep (r id)) (f.view id, false)
      (trace (step r) (seen r id) f es)).1 = (run (step r) f es).view id :=
    (run_withGhost_fst _ _).trans halone.symm
  have hin := htruth hfresh v (by rw [ReconcilerTruth.memo, hfst, hmemo])
  rw [ReconcilerTruth.memo, hfst] at hin
  exact hin

def vllmFleet (id : String) : Reconciler VllmScheduler.Sched VllmEngine.Own :=
  ⟨vllmManifest, VllmEngine.vllm, id, "g"⟩

def bootedFleet : Fleet VllmScheduler.Sched :=
  ⟨Store.empty, fun _ => ⟨none, ⟨0, 32, 2048, 0, none, none, none⟩⟩⟩

/-- A cap of 16, taken by one replica after the other has been told. -/
def capRollout : List (Event VllmEngine.Own) :=
  [.plane (.client (.propose "g" (Dict.ofList [("max_num_seqs", .int 16)]) "t" "")),
    .plane (.client (.promote "g" 1)), .tick "r1", .own "r0" (.schedule [true]), .tick "r0"]

instance (id : String) : (e : Event ι) → Decidable (Unforged id e)
  | .plane (.store (.recordStatus j _ _ _ _)) => inferInstanceAs (Decidable (j ≠ id))
  | .plane (.client _) | .plane (.store (.propose _ _ _ _)) | .plane (.store (.promote _ _))
  | .plane (.store (.rollback _ _)) | .plane (.store (.setOverrides _ _ _))
  | .plane (.store (.clearOverrides _)) | .plane (.store (.openCanary _ _ _ _ _))
  | .plane (.store (.closeCanary _ _ _)) | .own _ _ | .tick _ => isTrue trivial

instance (id : String) (d : ConfigVersion) (f : Fleet σ) :
    (e : Event ι) → Decidable (Finds r id d f e)
  | .tick j => inferInstanceAs (Decidable (j = id → (r id).target f.store = some d))
  | .plane _ | .own _ _ => isTrue trivial

instance (id : String) (d : ConfigVersion) (f : Fleet σ) (e : Event ι) :
    Decidable (Aims r id d f e) := instDecidableAnd

theorem capRollout_observed :
    Shows vllmFleet (run (step vllmFleet) bootedFleet capRollout) "r0" 1 ∧
      VllmEngine.vllm.InForce ((run (step vllmFleet) bootedFleet capRollout).replicas "r0").engine
        (Dict.ofList [("max_num_seqs", .int 16)]) := by
  have hend := rollout_observed (r := vllmFleet) (fun _ => rfl) (fun _ => vllm_plainChoices)
    bootedFleet capRollout "r0"
    ⟨⟨"g", none, Dict.ofList [("max_num_seqs", .int 16)], "t", ""⟩, 1⟩
    ⟨by decide, fun h => by
      obtain ⟨row, hrow, -⟩ := (shows_iff vllmFleet).mp h
      cases hrow⟩ (by decide +kernel)
  have hshown := hend.1.mpr ⟨capRollout.take 4, [], rfl, by decide +kernel⟩
  exact ⟨hshown, (hend.2 hshown).1⟩

def capLowered : List (Event VllmEngine.Own) := capRollout ++
  [.plane (.client (.propose "g" (Dict.ofList [("max_num_seqs", .int 8)]) "t" "")),
    .plane (.client (.promote "g" 2)), .tick "r0", .tick "r1"]

theorem capLowered_truthful : ∃ d,
    (run (step vllmFleet) bootedFleet capLowered).store.find 2 = some d ∧
      VllmEngine.vllm.InForce ((run (step vllmFleet) bootedFleet capLowered).replicas "r1").engine
        d.fields := by
  have hrow : ((run (step vllmFleet) bootedFleet capLowered).store.replicaStatus.get? "r1").map
      (fun row => (row.replicaGroup, row.appliedVersionId)) = some ("g", some 2) := by
    decide +kernel
  obtain ⟨row, hrow, hsame⟩ := Option.map_eq_some_iff.mp hrow
  exact status_truthful (r := vllmFleet) (fun _ => rfl) (fun _ => vllm_plainChoices) bootedFleet
    capLowered "r1" rfl rfl (by decide) 2 (by decide +kernel)
    ((shows_iff vllmFleet).mpr ⟨row, hrow, congrArg Prod.fst hsame, congrArg Prod.snd hsame⟩)

end Trimtab.ReplicaFleet
