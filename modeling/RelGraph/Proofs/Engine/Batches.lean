import RelGraph.Engine.Endpoint
import RelGraph.Proofs.Engine.Narrow

/-!
# Rows in batches

A reader fetches the rows of its cursor some at a time.  On any database whose cursor gives its
rows up to the end, the items are those of the rows, one row after the other, however many rows are
fetched at a time (`Reader.completes_batches`).
-/

namespace RelGraph.Engine

open Sql Mapping

variable {σ κ α ι : Type} [Member α ι] {B : Backend σ κ} {g : Group α} {n : Nat} {rows : List Row}

/-! ### Cursors that come to their end -/

/-- A cursor gives these rows and then its end, and after that it is closed.  The reading is not
cancelled meanwhile. -/
def Backend.Exhausts (B : Backend σ κ) (c : κ) (s : σ) (rows : List Row) (s' : σ) : Prop :=
  ∃ c₁ s₁ c₂ s₂, B.Fetches c s rows c₁ s₁ ∧ B.next c₁ s₁ = (.ended, c₂, s₂)
    ∧ (B.close c₂ s₂).2.2 = s' ∧ B.cancelled s' = false

/-- The rows that a group reads, and the store that is left.  A relation without rows is not asked
for, one without tables has a single row without cells, and any other has the rows of its cursor. -/
inductive Group.Reads (B : Backend σ κ) (g : Group α) (s : σ) : List Row → σ → Prop where
  | empty (he : g.relation.isEmpty = true) : Reads B g s [] s
  | single (he : g.relation.isEmpty = false) (hdatabase : g.relation.database = none) :
    Reads B g s [Row.empty] s
  | query {c : κ} {s₁ s' : σ} {rows : List Row} (he : g.relation.isEmpty = false)
      (hdatabase : g.relation.database ≠ none) (hexecute : B.execute g.query s = (.ok c, s₁))
      (hrows : B.Exhausts c s₁ rows s') :
    Reads B g s rows s'

theorem Backend.Fetches.split {c c' : κ} {s s' : σ} {rows rest : List Row}
    (h : B.Fetches c s (rows ++ rest) c' s') :
  ∃ c₁ s₁, B.Fetches c s rows c₁ s₁ ∧ B.Fetches c₁ s₁ rest c' s'
  := by
  induction rows generalizing c s with
  | nil => exact ⟨c, s, .none h.not_cancelled.1, h⟩
  | cons row rows ih =>
    cases h with
    | row hs hnext h =>
      obtain ⟨c₁, s₁, hrows, hrest⟩ := ih h
      exact ⟨c₁, s₁, .row hs hnext hrows, hrest⟩

/-! ### Full batches -/

/-- The rows of the batches that are full. -/
def inFullBatches (n : Nat) (rows : List Row) : List Row := rows.take (rows.length / n * n)

/-- The rows after the last full batch. -/
def afterFullBatches (n : Nat) (rows : List Row) : List Row := rows.drop (rows.length / n * n)

theorem inFullBatches_append (n : Nat) (rows : List Row) :
  inFullBatches n rows ++ afterFullBatches n rows = rows
  := List.take_append_drop _ rows

theorem length_afterFullBatches_lt (hn : 0 < n) (rows : List Row) :
  (afterFullBatches n rows).length < n
  := by
  have hlength : (afterFullBatches n rows).length = rows.length % n := by
    rw [afterFullBatches, List.length_drop, Nat.mul_comm, ← Nat.mod_eq_sub_mul_div]
  rw [hlength]
  apply Nat.mod_lt _ hn

theorem fullBatches_of_lt (h : rows.length < n) :
  inFullBatches n rows = [] ∧ afterFullBatches n rows = rows
  := by
  rw [inFullBatches, afterFullBatches, Nat.div_eq_of_lt h, Nat.zero_mul]
  exact ⟨rfl, rfl⟩

theorem fullBatches_of_le (hn : 0 < n) (h : n ≤ rows.length) :
  inFullBatches n rows = rows.take n ++ inFullBatches n (rows.drop n)
    ∧ afterFullBatches n rows = afterFullBatches n (rows.drop n)
  := by
  have hlength : rows.length / n * n = n + (rows.drop n).length / n * n := by
    rw [List.length_drop, Nat.div_eq_sub_div hn h, Nat.add_one_mul, Nat.add_comm]
  rw [inFullBatches, afterFullBatches, hlength, List.take_add, List.drop_drop.symm]
  exact ⟨rfl, rfl⟩

namespace Reader

/-! ### One batch -/

/-- A fetch of no more rows than these takes the first of them, and leaves the cursor open. -/
theorem fetch_of_le {c c' : κ} {s s' : σ} (h : B.Fetches c s rows c' s') (hle : n ≤ rows.length)
    (items : List ι) :
  ∃ c₁ s₁, B.Fetches c₁ s₁ (rows.drop n) c' s'
    ∧ fetch B g n c items s = (⟨none, .reading c₁, items ++ (rows.take n).flatMap g.items⟩, s₁)
  := by
  rw [← List.take_append_drop n rows] at h
  obtain ⟨c₁, s₁, htake, hdrop⟩ := h.split
  use c₁, s₁, hdrop
  have hfetch := fetch_of_fetches (g := g) htake 0 items
  rwa [List.length_take_of_le hle, Nat.add_zero] at hfetch

/-- A fetch of more rows than these goes on behind them. -/
theorem fetch_of_lt {c c' : κ} {s s' : σ} (h : B.Fetches c s rows c' s') (hlt : rows.length < n)
    (items : List ι) :
  ∃ k, fetch B g n c items s = fetch B g (k + 1) c' (items ++ rows.flatMap g.items) s'
  := by
  obtain ⟨k, rfl⟩ := Nat.exists_eq_add_of_lt hlt
  rw [Nat.add_assoc, fetch_of_fetches h]
  exact ⟨k, rfl⟩

/-! ### All batches -/

/-- The items that were fetched come first. -/
theorem completes_buffer {progress : Progress κ} {s s' : σ} (hs : B.cancelled s = false)
    {is : List ι} {js : List (Except EvalError ι)}
    (h : (machine B n).Completes (⟨g, progress, []⟩ : Reader α ι κ) s js s') :
  (machine B n).Completes (⟨g, progress, is⟩ : Reader α ι κ) s (is.map .ok ++ js) s'
  := by
  induction is with
  | nil => apply h
  | cons i is ih =>
    have hstep : (machine B n).step (⟨g, progress, i :: is⟩ : Reader α ι κ) s
        = (.item (.ok i), ⟨g, progress, is⟩, s) := by
      simp [machine, step, hs]
    apply Machine.Completes.of_item hstep ih

theorem completes_done {s : σ} (hs : B.cancelled s = false) (is : List ι) :
  (machine B n).Completes (⟨g, .done, is⟩ : Reader α ι κ) s (is.map .ok) s
  := by
  have hstep : (machine B n).step (⟨g, .done, []⟩ : Reader α ι κ) s
      = (.finished, ⟨g, .done, []⟩, s) := by
    simp [machine, step, hs]
  rw [← List.append_nil (is.map Except.ok)]
  apply completes_buffer hs (Machine.Completes.of_finished hstep)

/-- A cursor that gives rows gives the items of the full batches.  What follows them is up to the
batch in which it gives the rows that are left. -/
theorem completes_fullBatches (hn : 0 < n) {c c' : κ} {s s' last : σ} (h : B.Fetches c s rows c' s')
    {js : List (Except EvalError ι)}
    (hlast : ∀ c₁ s₁, B.Fetches c₁ s₁ (afterFullBatches n rows) c' s'
      → (machine B n).Completes (⟨g, .reading c₁, []⟩ : Reader α ι κ) s₁ js last) :
  (machine B n).Completes (⟨g, .reading c, []⟩ : Reader α ι κ) s
    (((inFullBatches n rows).flatMap g.items).map .ok ++ js) last
  := by
  -- a full batch takes some rows away
  induction hlength : rows.length using Nat.strongRecOn generalizing c s rows with
  | ind k ih =>
    obtain hlt | hle := Nat.lt_or_ge rows.length n
    · obtain ⟨hfull, hafter⟩ := fullBatches_of_lt hlt
      rw [hfull]
      rw [hafter] at hlast
      apply hlast c s h
    · obtain ⟨c₁, s₁, hrest, hfetch⟩ := fetch_of_le (g := g) h hle ([] : List ι)
      have hstep : (machine B n).step (⟨g, .reading c, []⟩ : Reader α ι κ) s
          = (.quiet, ⟨g, .reading c₁, (rows.take n).flatMap g.items⟩, s₁) := by
        simp [machine, step, h.not_cancelled.1, hfetch]
      obtain ⟨hfull, hafter⟩ := fullBatches_of_le hn hle
      rw [hafter] at hlast
      rw [hfull, List.flatMap_append, List.map_append, List.append_assoc]
      apply Machine.Completes.of_quiet hstep
      apply completes_buffer hrest.not_cancelled.1
      apply ih (rows.drop n).length _ hrest hlast rfl
      rw [List.length_drop]
      omega

/-- A cursor gives the items of its rows, whatever the size of a batch. -/
theorem completes_reading (hn : 0 < n) {c : κ} {s s' : σ} (h : B.Exhausts c s rows s') :
  (machine B n).Completes (⟨g, .reading c, []⟩ : Reader α ι κ) s
    ((rows.flatMap g.items).map .ok) s'
  := by
  obtain ⟨c₁, s₁, c₂, s₂, hfetches, hended, rfl, hs'⟩ := h
  rw [← inFullBatches_append n rows, List.flatMap_append, List.map_append]
  apply completes_fullBatches hn hfetches
  intro c s hrest
  have hstep : (machine B n).step (⟨g, .reading c, []⟩ : Reader α ι κ) s
      = (.quiet, ⟨g, .done, (afterFullBatches n rows).flatMap g.items⟩, (B.close c₂ s₂).2.2) := by
    obtain ⟨k, hfetch⟩ := fetch_of_lt (g := g) hrest (length_afterFullBatches_lt hn rows) ([] : List ι)
    simp [machine, step, hrest.not_cancelled.1, hfetch, fetch, hended]
  apply Machine.Completes.of_quiet hstep (completes_done hs' _)

/-- The first step sends the query, if there is one. -/
theorem step_ofGroup {s s₁ : σ} (hs : B.cancelled s = false) (he : g.relation.isEmpty = false)
    (hdatabase : g.relation.database ≠ none) {c : κ} (hexecute : B.execute g.query s = (.ok c, s₁)) :
  (machine B n).step (ofGroup g : Reader α ι κ) s = (.quiet, ⟨g, .reading c, []⟩, s₁)
  := by
  have hnone : g.relation.database.isNone = false := by
    rwa [Option.isNone_eq_false_iff, Option.isSome_iff_ne_none]
  simp only [machine, step, ofGroup, send, hs, he, hnone, hexecute]
  rfl

/-- A reader gives the items of the rows that its group reads. -/
theorem completes_ofGroup (hn : 0 < n) {s s' : σ} (hs : B.cancelled s = false)
    (h : g.Reads B s rows s') :
  (machine B n).Completes (ofGroup g : Reader α ι κ) s ((rows.flatMap g.items).map .ok) s'
  := by
  cases h with
  | empty he =>
    have hstep : (machine B n).step (ofGroup g : Reader α ι κ) s = (.quiet, ⟨g, .done, []⟩, s) := by
      simp [machine, step, ofGroup, send, hs, he]
    apply Machine.Completes.of_quiet hstep (completes_done hs [])
  | single he hdatabase =>
    have hstep : (machine B n).step (ofGroup g : Reader α ι κ) s
        = (.quiet, ⟨g, .done, g.items Row.empty⟩, s) := by
      simp [machine, step, ofGroup, send, hs, he, hdatabase]
    rw [List.flatMap_singleton]
    apply Machine.Completes.of_quiet hstep (completes_done hs _)
  | query he hdatabase hexecute hrows =>
    apply Machine.Completes.of_quiet (step_ofGroup hs he hdatabase hexecute)
      (completes_reading hn hrows)

/-- Batches lose, repeat and reorder nothing.  If the cursor of a group gives its rows up to the
end, and the reading is not cancelled, then the items are those that the members make of the rows,
one row after the other and in each row one member after the other, and no others.  This is so for
every size of a batch, and for the sizes that an endpoint can be given. -/
theorem completes_batches {s s' : σ} (hs : B.cancelled s = false) {rows : List Row}
    (h : g.Reads B s rows s') :
  (∀ n, 1 ≤ n → ∀ is last, (machine B n).Completes (ofGroup g : Reader α ι κ) s is last
      ↔ is = (rows.flatMap fun row => g.members.filterMap fun m => Member.make? m row).map .ok
        ∧ last = s')
    ∧ ∀ (e : Endpoint) (size : Nat), 1 ≤ (e.withFetchSize size).fetchSize
  := by
  constructor
  · intro n hn is last
    have hcompletes := completes_ofGroup (ι := ι) hn hs h
    constructor
    · intro h'
      apply h'.unique hcompletes
    · rintro ⟨rfl, rfl⟩
      apply hcompletes
  · intro e size
    apply Nat.le_max_right

/-! ### An example -/

/-- The cursors of a database in memory come to their end. -/
theorem reads_memory {db : Database} {g : Group α} (he : g.relation.isEmpty = false)
    (hdatabase : g.relation.database ≠ none) (h : db.answer g.query = .ok rows) {s : Store}
    (hs : Live s) :
  ∃ s', g.Reads (memory db) s rows s'
  := by
  have hexecute := execute_eq db g.query s
  rw [h] at hexecute
  have hlive : Live { s with session := (db.execute g.query s.session).2 } := hs
  obtain ⟨s', hfetches, hs'⟩ := fetches_memory db rows [] db.failsOnClose hlive
  rw [List.append_nil] at hfetches
  obtain ⟨hnext, hlive'⟩ := @live_next db s' hs' ⟨[], false, db.failsOnClose⟩
  have hclosed : (memory db).cancelled
      ((memory db).close ⟨[], false, db.failsOnClose⟩ (s'.countFetch .none)).2.2 = false := hlive'
  exact ⟨_, .query he hdatabase hexecute ⟨_, _, _, _, hfetches, hnext, rfl, hclosed⟩⟩

open Plan

/-- The persons with and without their names, which are read by one query. -/
def personGroup : Group SolutionMap where
  relation := personMap.relation
  members := [personMap, .ofRelation (.ofDatabase "db")
    [(⟨"person"⟩, .typed .iri (.template ⟨"ex:", [⟨⟨personTable, "id"⟩, .plain, ""⟩]⟩))]]

/-- The last person has no name, so that the two batches have four items and one item. -/
theorem completes_batches_personGroup :
  ∃ rows s', (memory personDatabase).cancelled Store.start = false
    ∧ personGroup.Reads (memory personDatabase) Store.start rows s'
    ∧ (machine (memory personDatabase) 2).Completes (ofGroup personGroup) Store.start
      ([nameBinding "1" "Ann", personBinding "1", nameBinding "2" "Bob", personBinding "2",
        personBinding "3"].map .ok) s'
  := by
  have hitems : ∃ rows, personDatabase.answer personGroup.query = .ok rows
      ∧ rows.flatMap personGroup.items
        = [nameBinding "1" "Ann", personBinding "1", nameBinding "2" "Bob", personBinding "2",
          personBinding "3"] := by
    have h : (personDatabase.answer personGroup.query).toOption.map
        (List.flatMap personGroup.items)
          = some [nameBinding "1" "Ann", personBinding "1", nameBinding "2" "Bob",
            personBinding "2", personBinding "3"] := by
      decide
    obtain ⟨rows, hrows, hitems⟩ := Option.map_eq_some_iff.1 h
    exact ⟨rows, eq_ok_of_toOption hrows, hitems⟩
  obtain ⟨rows, hrows, hitems⟩ := hitems
  obtain ⟨s', hreads⟩ := reads_memory (by decide) (by decide) hrows live_start
  use rows, s', rfl, hreads
  rw [← hitems]
  exact ((completes_batches rfl hreads).1 2 (by decide) _ _).2 ⟨rfl, rfl⟩

end Reader

end RelGraph.Engine
