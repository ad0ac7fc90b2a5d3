import RelGraph.Proofs.Engine.Batches
import RelGraph.Proofs.Engine.Cursors

/-!
# Failures within a batch

A fetch may fail in the middle of a batch.  The reader reports the error at once, while the items of
the rows that were fetched before it in the same batch are still waiting, so that these follow the
error.  The items of earlier batches come before it, and nothing comes after the last item
(`Reader.error_within_batch`).
-/

namespace RelGraph.Engine

open Sql Mapping

/-! ### The end of a reading -/

/-- The items that are pulled up to the end, and the store that is left.  From then on there is only
the end, however often it is asked for. -/
def Machine.EndsAfter {σ τ ι : Type} (m : Machine σ τ ι) (t : τ) (s : σ)
    (is : List (Except EvalError ι)) (s' : σ) : Prop :=
  ∃ t₁ s₁ fuel t', m.Pulls t s is t₁ s₁ ∧ m.pull fuel t₁ s₁ = (.ended, t', s')
    ∧ ∀ fuel', m.pull (fuel' + 1) t' s' = (.ended, t', s')

variable {σ κ α ι : Type} [Member α ι] {B : Backend σ κ} {g : Group α} {n : Nat} {rows : List Row}
  {e : DatabaseError}

namespace Reader

/-- The end of a reader lasts. -/
theorem pull_of_ended {r r' : Reader α ι κ} {s s' : σ} {fuel : Nat}
    (h : (machine B n).pull fuel r s = (.ended, r', s')) (fuel' : Nat) :
  (machine B n).pull (fuel' + 1) r' s' = (.ended, r', s')
  := by
  induction fuel generalizing r s with
  | zero => cases h
  | succ fuel ih =>
    rw [Machine.pull] at h
    split at h
    · cases h
    · rename_i hstep
      cases h
      obtain ⟨g, progress, buffer⟩ := r'
      obtain ⟨rfl, rfl⟩ := done_of_step_finished hstep
      have hdone : (machine B n).step (⟨g, .done, []⟩ : Reader α ι κ) s'
          = (.finished, ⟨g, .done, []⟩, s') := by
        -- whether the reading is cancelled makes no difference any more
        cases hs' : B.cancelled s' <;> simp [machine, step, close, isRunning, hs']
      rw [Machine.pull, hdone]
    · apply ih h

theorem endsAfter_iff {r : Reader α ι κ} {s s' : σ} {is : List (Except EvalError ι)} :
  (machine B n).EndsAfter r s is s' ↔ (machine B n).Completes r s is s'
  := by
  constructor
  · rintro ⟨r₁, s₁, fuel, r', hpulls, hend, -⟩
    exact ⟨r₁, s₁, fuel, r', hpulls, hend⟩
  · rintro ⟨r₁, s₁, fuel, r', hpulls, hend⟩
    exact ⟨r₁, s₁, fuel, r', hpulls, hend, pull_of_ended hend⟩

end Reader

/-! ### Cursors that fail -/

/-- A cursor gives these rows, and then a fetch fails, after which it is closed.  The reading is not
cancelled meanwhile. -/
def Backend.Breaks (B : Backend σ κ) (c : κ) (s : σ) (rows : List Row) (e : DatabaseError)
    (s' : σ) : Prop :=
  ∃ c₁ s₁ c₂ s₂, B.Fetches c s rows c₁ s₁ ∧ B.next c₁ s₁ = (.failed e, c₂, s₂)
    ∧ (B.close c₂ s₂).2.2 = s' ∧ B.cancelled s' = false

/-- The rows that a group reads before a fetch fails, the error, and the store that is left. -/
structure Group.Breaks (B : Backend σ κ) (g : Group α) (s : σ) (rows : List Row) (e : DatabaseError)
    (s' : σ) : Prop where
  nonempty : g.relation.isEmpty = false
  database : g.relation.database ≠ none
  cursor : ∃ c s₁, B.execute g.query s = (.ok c, s₁) ∧ B.Breaks c s₁ rows e s'

namespace Reader

/-- What is delivered when a fetch fails after some rows: the items of the full batches, the error,
and the items of the other rows. -/
def deliveredBefore (n : Nat) (g : Group α) (rows : List Row) (e : DatabaseError) :
    List (Except EvalError ι) :=
  ((inFullBatches n rows).flatMap g.items).map .ok ++ Except.error (.database e)
    :: ((afterFullBatches n rows).flatMap g.items).map .ok

theorem completes_breaking (hn : 0 < n) {c : κ} {s s' : σ} (h : B.Breaks c s rows e s') :
  (machine B n).Completes (⟨g, .reading c, []⟩ : Reader α ι κ) s (deliveredBefore n g rows e) s'
  := by
  obtain ⟨c₁, s₁, c₂, s₂, hfetches, hfailed, rfl, hs'⟩ := h
  apply completes_fullBatches hn hfetches
  intro c s hrest
  have hstep : (machine B n).step (⟨g, .reading c, []⟩ : Reader α ι κ) s
      = (.item (.error (.database e)), ⟨g, .done, (afterFullBatches n rows).flatMap g.items⟩,
        (B.close c₂ s₂).2.2) := by
    obtain ⟨k, hfetch⟩ := fetch_of_lt (g := g) hrest (length_afterFullBatches_lt hn rows)
      ([] : List ι)
    simp [machine, step, hrest.not_cancelled.1, hfetch, fetch, hfailed]
  apply Machine.Completes.of_item hstep (completes_done hs' _)

theorem completes_of_breaks (hn : 0 < n) {s s' : σ} (hs : B.cancelled s = false)
    (h : g.Breaks B s rows e s') :
  (machine B n).Completes (ofGroup g : Reader α ι κ) s (deliveredBefore n g rows e) s'
  := by
  obtain ⟨he, hdatabase, c, s₁, hexecute, hrows⟩ := h
  apply Machine.Completes.of_quiet (step_ofGroup hs he hdatabase hexecute)
    (completes_breaking hn hrows)

/-- The error comes last exactly when the rows after the last full batch have no items. -/
theorem eq_deliveredBefore_iff :
  ((rows.flatMap g.items).map .ok ++ [Except.error (.database e)] : List (Except EvalError ι))
      = deliveredBefore n g rows e
    ↔ ∀ row ∈ afterFullBatches n rows, g.items row = ([] : List ι)
  := by
  rw [← List.flatMap_eq_nil_iff, deliveredBefore]
  conv_lhs =>
    lhs
    rw [← inFullBatches_append n rows, List.flatMap_append, List.map_append, List.append_assoc]
  rw [List.append_cancel_left_eq]
  cases (afterFullBatches n rows).flatMap g.items <;> simp

theorem endsAfter_of_breaks {s s' : σ} (hs : B.cancelled s = false) (h : g.Breaks B s rows e s')
    (hn : 0 < n) {is : List (Except EvalError ι)} {last : σ} :
  (machine B n).EndsAfter (ofGroup g : Reader α ι κ) s is last
    ↔ is = deliveredBefore n g rows e ∧ last = s'
  := by
  have hcompletes := completes_of_breaks (ι := ι) hn hs h
  rw [endsAfter_iff]
  constructor
  · intro h'
    apply h'.unique hcompletes
  · rintro ⟨rfl, rfl⟩
    apply hcompletes

/-- Where an error stands among the items.  If a fetch fails after some rows, then a reader of
batches of `n` rows gives the items of the full batches, the error, the items of the rows that were
fetched together with it, and after that only the end.  So the error comes after all the items
exactly when there are no items in its own batch, as when it is the first fetch of a batch. -/
theorem error_within_batch {s s' : σ} (hs : B.cancelled s = false) {rows : List Row}
    {e : DatabaseError} (h : g.Breaks B s rows e s') (hn : 1 ≤ n) :
  (∀ is last, (machine B n).EndsAfter (ofGroup g : Reader α ι κ) s is last
      ↔ is = ((inFullBatches n rows).flatMap g.items).map .ok
          ++ Except.error (.database e) :: ((afterFullBatches n rows).flatMap g.items).map .ok
        ∧ last = s')
    ∧ ((machine B n).EndsAfter (ofGroup g : Reader α ι κ) s
        ((rows.flatMap g.items).map .ok ++ [Except.error (.database e)]) s'
      ↔ ∀ row ∈ afterFullBatches n rows, g.items row = ([] : List ι))
    ∧ (n ∣ rows.length → afterFullBatches n rows = [])
  := by
  refine ⟨fun is last => endsAfter_of_breaks hs h hn, ?_, ?_⟩
  · rw [endsAfter_of_breaks hs h hn, eq_deliveredBefore_iff, and_iff_left rfl]
  · intro hdvd
    rw [afterFullBatches, Nat.div_mul_cancel hdvd, List.drop_length]

/-! ### An example -/

/-- A cursor of a database in memory gives its rows up to the fetch that is to fail. -/
theorem breaks_cursor (db : Database) {k : Nat} (rest : List Row) (fails : Bool) {s : Store}
    (hs : Live s) (hk : k = s.fetches + rows.length) :
  ∃ s', (memoryBackend db ⟨some k, none⟩).Breaks ⟨rows ++ rest, false, fails⟩ s rows .cursorClosed
    s'
  := by
  have hlive {s : Store} (hs : Live s) : Live (s.countFetch ⟨some k, none⟩) := by
    simpa [Live, Store.countFetch] using hs
  induction rows generalizing s with
  | nil =>
    have hnext : (memoryBackend db ⟨some k, none⟩).next ⟨rest, false, fails⟩ s
        = (.failed .cursorClosed, ⟨rest, false, fails⟩, s.countFetch ⟨some k, none⟩) := by
      simp [memoryBackend, hk]
    exact ⟨_, _, _, _, _, .none hs, hnext, rfl, hlive hs⟩
  | cons row rows ih =>
    rw [List.length_cons, Nat.add_comm rows.length, ← Nat.add_assoc] at hk
    have hne : (some k == some s.fetches) = false := by
      simp only [Option.some_beq_some, beq_eq_false_iff_ne]
      omega
    have hnext : (memoryBackend db ⟨some k, none⟩).next ⟨row :: rows ++ rest, false, fails⟩ s
        = (.row row, ⟨rows ++ rest, false, fails⟩, s.countFetch ⟨some k, none⟩) := by
      simp only [memoryBackend, hne]
      rfl
    obtain ⟨s', c₁, s₁, c₂, s₂, hfetches, hfailed⟩ := ih (hlive hs) hk
    exact ⟨s', c₁, s₁, c₂, s₂, .row hs hnext hfetches, hfailed⟩

/-- A group on a database in memory reads the rows up to the fetch that is to fail. -/
theorem breaks_memoryBackend {db : Database} {g : Group α} (he : g.relation.isEmpty = false)
    (hdatabase : g.relation.database ≠ none) (h : db.answer g.query = .ok rows) {k : Nat}
    (hk : k ≤ rows.length) :
  ∃ s', g.Breaks (memoryBackend db ⟨some k, none⟩) Store.start (rows.take k) .cursorClosed s'
  := by
  have hexecute := execute_eq db g.query Store.start
  rw [h] at hexecute
  have hlive : Live { Store.start with session := (db.execute g.query Store.start.session).2 } := by
    apply live_start
  have hfetches : k = 0 + (rows.take k).length := by
    rw [List.length_take_of_le hk, Nat.zero_add]
  obtain ⟨s', hbreaks⟩ := breaks_cursor db (rows.drop k) db.failsOnClose hlive hfetches
  rw [List.take_append_drop] at hbreaks
  exact ⟨s', he, hdatabase, _, _, hexecute, hbreaks⟩

open Plan

theorem exists_answer_personGroup :
  ∃ rows, personDatabase.answer personGroup.query = .ok rows ∧ rows.length = 3
    ∧ (rows.take 1).flatMap personGroup.items = [nameBinding "1" "Ann", personBinding "1"]
    ∧ (rows.take 2).flatMap personGroup.items
      = [nameBinding "1" "Ann", personBinding "1", nameBinding "2" "Bob", personBinding "2"]
    ∧ (rows.drop 2).flatMap personGroup.items = [personBinding "3"]
  := by
  have h : (personDatabase.answer personGroup.query).toOption.map (fun rows =>
      (rows.length, (rows.take 1).flatMap personGroup.items,
        (rows.take 2).flatMap personGroup.items, (rows.drop 2).flatMap personGroup.items))
      = some (3, [nameBinding "1" "Ann", personBinding "1"],
        [nameBinding "1" "Ann", personBinding "1", nameBinding "2" "Bob", personBinding "2"],
        [personBinding "3"]) := by
    decide
  obtain ⟨rows, hrows, hitems⟩ := Option.map_eq_some_iff.1 h
  simp only [Prod.mk.injEq] at hitems
  exact ⟨rows, eq_ok_of_toOption hrows, hitems⟩

/-- The persons are read two at a time, and the fetch after the last one fails. -/
theorem error_within_batch_personGroup :
  ∃ rows s', (memoryBackend personDatabase ⟨some 3, none⟩).cancelled Store.start = false
    ∧ personGroup.Breaks (memoryBackend personDatabase ⟨some 3, none⟩) Store.start rows
      .cursorClosed s'
    ∧ (machine (memoryBackend personDatabase ⟨some 3, none⟩) 2).EndsAfter (ofGroup personGroup)
      Store.start
      ([nameBinding "1" "Ann", personBinding "1", nameBinding "2" "Bob", personBinding "2"].map .ok
        ++ [Except.error (.database .cursorClosed), .ok (personBinding "3")]) s'
  := by
  obtain ⟨rows, hrows, hlength, -, hfull, hafter⟩ := exists_answer_personGroup
  obtain ⟨s', hbreaks⟩ := breaks_memoryBackend (by decide) (by decide) hrows
    (Nat.le_of_eq hlength.symm)
  rw [List.take_of_length_le (Nat.le_of_eq hlength)] at hbreaks
  refine ⟨rows, s', rfl, hbreaks, ((error_within_batch rfl hbreaks (by decide)).1 _ s').2 ⟨?_, rfl⟩⟩
  rw [inFullBatches, afterFullBatches, hlength, show 3 / 2 * 2 = 2 from rfl, hfull, hafter]
  rfl

/-- The persons are read two at a time, and the second fetch fails.  The error overtakes the first
person. -/
theorem error_overtakes_personGroup :
  ∃ rows s', (memoryBackend personDatabase ⟨some 1, none⟩).cancelled Store.start = false
    ∧ personGroup.Breaks (memoryBackend personDatabase ⟨some 1, none⟩) Store.start rows
      .cursorClosed s'
    ∧ rows.flatMap personGroup.items = [nameBinding "1" "Ann", personBinding "1"]
    ∧ ¬(machine (memoryBackend personDatabase ⟨some 1, none⟩) 2).EndsAfter (ofGroup personGroup)
      Store.start
      ((rows.flatMap personGroup.items).map .ok ++ [Except.error (.database .cursorClosed)]) s'
  := by
  obtain ⟨rows, hrows, hlength, hfirst, -, -⟩ := exists_answer_personGroup
  have hone : (rows.take 1).length < 2 := by simp [hlength]
  obtain ⟨s', hbreaks⟩ := breaks_memoryBackend (by decide) (by decide) hrows
    (show 1 ≤ rows.length by rw [hlength]; decide)
  refine ⟨rows.take 1, s', rfl, hbreaks, hfirst, ?_⟩
  rw [endsAfter_of_breaks rfl hbreaks (by decide), eq_deliveredBefore_iff,
    (fullBatches_of_lt hone).2, ← List.flatMap_eq_nil_iff, hfirst]
  simp

end Reader

end RelGraph.Engine
