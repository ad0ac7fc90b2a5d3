import RelGraph.Engine.Reader
import RelGraph.Proofs.Engine.Group
import RelGraph.Proofs.Engine.Machine

/-!
# Items of readers

On a database in memory a reader gives the items of its group, or one error if the query fails,
whatever was done on the database before.  So a scan gives those of its groups, one group after the
other.
-/

namespace RelGraph.Engine

open Sql Machine

/-! ### Rows of a cursor -/

section

variable {σ κ : Type} {B : Backend σ κ}

/-- The rows that a cursor gives one after the other while the reading is not cancelled, and where
that leads. -/
inductive Backend.Fetches (B : Backend σ κ) : κ → σ → List Row → κ → σ → Prop where
  | none {c : κ} {s : σ} (hs : B.cancelled s = false) : Fetches B c s [] c s
  | row {c c' c'' : κ} {s s' s'' : σ} {row : Row} {rows : List Row} (hs : B.cancelled s = false)
      (hnext : B.next c s = (.row row, c', s')) :
    Fetches B c' s' rows c'' s'' → Fetches B c s (row :: rows) c'' s''

theorem Backend.Fetches.not_cancelled {c c' : κ} {s s' : σ} {rows : List Row}
    (h : B.Fetches c s rows c' s') :
  B.cancelled s = false ∧ B.cancelled s' = false
  := by
  induction h with
  | none hs => exact ⟨hs, hs⟩
  | row hs _ _ ih => exact ⟨hs, ih.2⟩

/-- Fetching more rows than these takes them first. -/
theorem Reader.fetch_of_fetches {α ι : Type} [Member α ι] {g : Group α} {c c' : κ} {s s' : σ}
    {rows : List Row} (h : B.Fetches c s rows c' s') (n : Nat) (items : List ι) :
  fetch B g (rows.length + n) c items s = fetch B g n c' (items ++ rows.flatMap g.items) s'
  := by
  induction h generalizing items with
  | none => rw [List.flatMap_nil, List.append_nil, List.length_nil, Nat.zero_add]
  | row _ hnext _ ih =>
    rw [List.length_cons, Nat.add_right_comm, fetch, hnext, List.flatMap_cons,
      ← List.append_assoc]
    apply ih

end

/-! ### Databases in memory -/

/-- The reading of the store is not cancelled. -/
def Live (s : Store) : Prop := s.cancelled = false

theorem live_start :
  Live Store.start
  := rfl

/-- The database in memory, on which all fetches go as usual. -/
def memory (db : Database) : Backend Store Cursor := memoryBackend db Faults.none

theorem live_close {db : Database} {s : Store} (h : Live s) (c : Cursor) :
  Live ((memory db).close c s).2.2
  := h

theorem live_next {db : Database} {s : Store} (h : Live s) (c : Cursor) :
  (memory db).next c s = (c.next.1, c.next.2, s.countFetch .none)
    ∧ Live (s.countFetch .none)
  := by
  constructor
  · rfl
  · rw [Live] at h ⊢
    simp [Store.countFetch, Faults.none, h]

theorem execute_eq (db : Database) (q : Select) (s : Store) :
  (memory db).execute q s
    = ((db.answer q).map fun rows => ⟨rows, false, db.failsOnClose⟩,
        { s with session := (db.execute q s.session).2 })
  := by
  have hexecute : (db.execute q s.session).1
      = (db.answer q).map fun rows => ⟨rows, false, db.failsOnClose⟩ := by
    rw [Database.execute]
    cases db.answer q <;> rfl
  rw [← hexecute]
  rfl

/-- A cursor of a database in memory gives its rows. -/
theorem fetches_memory (db : Database) (rows rest : List Row) (fails : Bool) {s : Store}
    (hs : Live s) :
  ∃ s', (memory db).Fetches ⟨rows ++ rest, false, fails⟩ s rows ⟨rest, false, fails⟩ s' ∧ Live s'
  := by
  induction rows generalizing s with
  | nil => exact ⟨s, .none hs, hs⟩
  | cons row rows ih =>
    obtain ⟨hnext, hlive⟩ := @live_next db s hs ⟨row :: rows ++ rest, false, fails⟩
    obtain ⟨s', hfetches, hs'⟩ := ih hlive
    exact ⟨s', .row hs hnext hfetches, hs'⟩

variable {α ι : Type} [Member α ι]

/-- What is delivered when the items are known or the query has failed. -/
def delivered : Except DatabaseError (List ι) → List (Except EvalError ι)
  | .ok is => is.map .ok
  | .error e => [.error (.database e)]

namespace Reader

variable {db : Database} {n : Nat} {g : Group α}

/-- Fetching goes on unless fewer rows are left than were asked for. -/
theorem fetch_eq (rows : List Row) (fails : Bool) (items : List ι) {s : Store} (hs : Live s) :
  ∃ s', fetch (memory db) g n ⟨rows, false, fails⟩ items s
      = (⟨none, if n ≤ rows.length then .reading ⟨rows.drop n, false, fails⟩ else .done,
          items ++ (rows.take n).flatMap g.items⟩, s')
    ∧ Live s'
  := by
  obtain ⟨s', hfetches, hs'⟩ := fetches_memory db (rows.take n) (rows.drop n) fails hs
  rw [List.take_append_drop] at hfetches
  by_cases hle : n ≤ rows.length
  · have hfetch := fetch_of_fetches (g := g) hfetches 0 items
    rw [List.length_take_of_le hle, Nat.add_zero] at hfetch
    use s'
    rw [hfetch, if_pos hle, fetch]
    exact ⟨rfl, hs'⟩
  · obtain ⟨k, rfl⟩ := Nat.exists_eq_add_of_lt (Nat.not_le.1 hle)
    rw [List.take_of_length_le (by omega), List.drop_of_length_le (by omega)] at hfetches
    have hfetch := fetch_of_fetches (g := g) hfetches (k + 1) items
    obtain ⟨hnext, hlive⟩ := @live_next db s' hs' ⟨[], false, fails⟩
    use ((memory db).close ⟨[], false, fails⟩ (s'.countFetch .none)).2.2
    rw [Nat.add_assoc, hfetch, fetch, hnext, if_neg (by omega), List.take_of_length_le (by omega)]
    exact ⟨rfl, live_close hlive _⟩

/-- The machine of the readers of groups. -/
abbrev memoryMachine (α : Type) {ι : Type} [Member α ι] (db : Database) (n : Nat) :
    Machine Store (Reader α ι Cursor) ι :=
  machine (memory db) n

theorem steps_buffer (progress : Progress Cursor) (i : ι) (is : List ι) :
  (memoryMachine α db n).Steps Live ⟨g, progress, i :: is⟩ (.item (.ok i)) ⟨g, progress, is⟩
  := by
  intro s hs
  use s
  have hc : (memory db).cancelled s = false := hs
  simp [machine, step, hc, hs]

/-- The items that were fetched come first. -/
theorem gives_buffer {progress : Progress Cursor} {is : List ι} {js : List (Except EvalError ι)}
    (h : (memoryMachine α db n).Gives Live ⟨g, progress, []⟩ js) :
  (memoryMachine α db n).Gives Live ⟨g, progress, is⟩ (is.map .ok ++ js)
  := by
  induction is with
  | nil => apply h
  | cons i is ih => apply Gives.item (steps_buffer progress i is) ih

theorem gives_done (is : List ι) :
  (memoryMachine α db n).Gives Live ⟨g, .done, is⟩ (is.map .ok)
  := by
  have hstep : (memoryMachine α db n).Steps Live ⟨g, .done, []⟩ .finished ⟨g, .done, []⟩ := by
    intro s hs
    use s
    have hc : (memory db).cancelled s = false := hs
    simp [machine, step, hc, hs]
  rw [← List.append_nil (is.map Except.ok)]
  apply gives_buffer (Gives.finished hstep hstep)

theorem steps_reading (rows : List Row) (fails : Bool) :
  (memoryMachine α db n).Steps Live ⟨g, .reading ⟨rows, false, fails⟩, []⟩ .quiet
    ⟨g, if n ≤ rows.length then .reading ⟨rows.drop n, false, fails⟩ else .done,
      (rows.take n).flatMap g.items⟩
  := by
  intro s hs
  obtain ⟨s', hfetch, hs'⟩ := @fetch_eq α ι _ db n g rows fails [] s hs
  use s'
  have hc : (memory db).cancelled s = false := hs
  simp [machine, step, hc, hfetch, hs']

/-- An open cursor gives the items of its rows. -/
theorem gives_reading (hn : 0 < n) (rows : List Row) (fails : Bool) :
  (memoryMachine α db n).Gives Live ⟨g, .reading ⟨rows, false, fails⟩, []⟩
    ((rows.flatMap g.items).map .ok)
  := by
  -- each fetch takes some rows away, as long as the cursor stays open
  induction hlength : rows.length using Nat.strongRecOn generalizing rows with
  | ind k ih =>
    apply Gives.quiet (steps_reading rows fails)
    split
    · rename_i hle
      have hsplit : rows.flatMap g.items
          = (rows.take n).flatMap g.items ++ (rows.drop n).flatMap g.items := by
        rw [← List.flatMap_append, List.take_append_drop]
      rw [hsplit, List.map_append]
      apply gives_buffer
      apply ih (rows.drop n).length _ (rows.drop n) rfl
      rw [List.length_drop]
      omega
    · rename_i hlt
      rw [List.take_of_length_le (by omega)]
      apply gives_done

/-- A reader gives the items of its group, or the error of its query. -/
theorem gives_ofGroup (hn : 0 < n) (g : Group α) :
  (memoryMachine α db n).Gives Live (ofGroup g) (delivered (g.answer db))
  := by
  rw [Group.answer]
  split
  · rename_i he
    have hstep : (memoryMachine α db n).Steps Live (ofGroup g) .quiet ⟨g, .done, []⟩ := by
      intro s hs
      use s
      have hc : (memory db).cancelled s = false := hs
      simp [machine, step, ofGroup, hc, send, he, hs]
    apply Gives.quiet hstep (gives_done [])
  · rename_i he
    split
    · rename_i hdatabase
      have hstep : (memoryMachine α db n).Steps Live (ofGroup g) .quiet
          ⟨g, .done, g.items Row.empty⟩ := by
        intro s hs
        use s
        have hc : (memory db).cancelled s = false := hs
        simp only [machine, step, ofGroup, hc, send, he, hdatabase]
        simp [hs]
      apply Gives.quiet hstep (gives_done _)
    · rename_i hdatabase
      cases hanswer : db.answer g.query with
      | error e =>
        have hstep : (memoryMachine α db n).Steps Live (ofGroup g) (.item (.error (.database e)))
            ⟨g, .done, []⟩ := by
          intro s hs
          use { s with session := (db.execute g.query s.session).2 }
          have hc : (memory db).cancelled s = false := hs
          simp only [machine, step, ofGroup, hc, send, he, hdatabase, execute_eq, hanswer]
          use rfl, hs
        apply Gives.item hstep (gives_done [])
      | ok rows =>
        have hstep : (memoryMachine α db n).Steps Live (ofGroup g) .quiet
            ⟨g, .reading ⟨rows, false, db.failsOnClose⟩, []⟩ := by
          intro s hs
          use { s with session := (db.execute g.query s.session).2 }
          have hc : (memory db).cancelled s = false := hs
          simp only [machine, step, ofGroup, hc, send, he, hdatabase, execute_eq, hanswer]
          use rfl, hs
        apply Gives.quiet hstep (gives_reading hn rows db.failsOnClose)

omit [Member α ι] in
theorem live_close_reader {r : Reader α ι Cursor} {s : Store} (h : Live s) :
  Live (r.close (memory db) s).2
  := by
  rw [close]
  split
  · rename_i c _
    apply @live_close db s h c
  · apply h

end Reader

/-! ### Several groups -/

namespace Scan

variable {db : Database} {n : Nat}

/-- The machine of the scans of groups. -/
def memoryMachine (α : Type) {ι : Type} [Member α ι] (db : Database) (n : Nat) :
    Machine Store (Scan α ι Cursor) ι where
  step := step (memory db) n
  close := close (memory db)

theorem steps_of_finished {r r' : Reader α ι Cursor} {gs : List (Group α)}
    (h : (Reader.memoryMachine α db n).Steps Live r .finished r') :
  (memoryMachine α db n).Steps Live ⟨some r, gs⟩ .quiet ⟨none, gs⟩
  := by
  intro s hs
  obtain ⟨s', hstep, hs'⟩ := h s hs
  use (r'.close (memory db) s').2
  simp only [Reader.machine] at hstep
  simp [memoryMachine, step, hstep, Reader.live_close_reader hs']

theorem steps_current {r r' : Reader α ι Cursor} {gs : List (Group α)} {e : Event ι}
    (he : e ≠ .finished) (h : (Reader.memoryMachine α db n).Steps Live r e r') :
  (memoryMachine α db n).Steps Live ⟨some r, gs⟩ e ⟨some r', gs⟩
  := by
  intro s hs
  obtain ⟨s', hstep, hs'⟩ := h s hs
  use s'
  simp only [Reader.machine] at hstep
  cases e with
  | finished => contradiction
  | quiet => simp [memoryMachine, step, hstep, hs']
  | item r => simp [memoryMachine, step, hstep, hs']

/-- A scan gives the items of its reader, then those of the other groups. -/
theorem gives_current {r : Reader α ι Cursor} {gs : List (Group α)}
    {is js : List (Except EvalError ι)} (hr : (Reader.memoryMachine α db n).Gives Live r is)
    (hgs : (memoryMachine α db n).Gives Live ⟨none, gs⟩ js) :
  (memoryMachine α db n).Gives Live ⟨some r, gs⟩ (is ++ js)
  := by
  induction hr with
  | finished hstep _ => apply Gives.quiet (steps_of_finished hstep) hgs
  | quiet hstep _ ih => apply Gives.quiet (steps_current (by simp) hstep) ih
  | item hstep _ ih => apply Gives.item (steps_current (by simp) hstep) ih

/-- A scan gives what the readers of its groups give. -/
theorem gives_groups (hn : 0 < n) (gs : List (Group α)) :
  (memoryMachine α db n).Gives Live ⟨none, gs⟩ (gs.flatMap fun g => delivered (g.answer db))
  := by
  induction gs with
  | nil =>
    have hstep : (memoryMachine α db n).Steps Live ⟨none, []⟩ .finished ⟨none, []⟩ := by
      intro s hs
      use s, rfl, hs
    apply Gives.finished hstep hstep
  | cons g gs ih =>
    have hstep : (memoryMachine α db n).Steps Live ⟨none, g :: gs⟩ .quiet
        ⟨some (.ofGroup g), gs⟩ := by
      intro s hs
      use s, rfl, hs
    apply Gives.quiet hstep
    rw [List.flatMap_cons]
    apply gives_current (Reader.gives_ofGroup hn g) ih

end Scan

end RelGraph.Engine
