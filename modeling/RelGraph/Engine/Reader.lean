import RelGraph.Engine.Backend
import RelGraph.Engine.Group
import RelGraph.Engine.Machine

/-!
# Readers

A reader gives the items of a group.  The query is sent when the first item is asked for, and
rows are fetched some at a time.  The cursor is closed as soon as it has no more rows, fails,
is cancelled, or is not needed any more.
-/

namespace RelGraph.Engine

open Sql

/-- The state of the query of a reader. -/
inductive Progress (κ : Type) where
  | waiting
  | reading (c : κ)
  | done

/-- The items of a group that are still to come. -/
structure Reader (α ι κ : Type) where
  group : Group α
  progress : Progress κ
  /-- The items of the rows that were fetched. -/
  buffer : List ι

namespace Reader

variable {α ι κ σ : Type} [Member α ι]

/-- The reader of a group, whose query has not been sent. -/
def ofGroup (g : Group α) : Reader α ι κ := ⟨g, .waiting, []⟩

/-- Nothing has been read to its end yet. -/
def isRunning (r : Reader α ι κ) : Bool :=
  match r.progress with
  | .done => !r.buffer.isEmpty
  | _ => true

/-- Closes the cursor, if it is open.  It does not matter whether this succeeds. -/
def close (B : Backend σ κ) (r : Reader α ι κ) (s : σ) : Reader α ι κ × σ :=
  match r.progress with
  | .reading c => ({ r with progress := .done }, (B.close c s).2.2)
  | _ => ({ r with progress := .done }, s)

/-- What fetching some rows gives: an error or none, the state of the query, the items. -/
structure Fetch (ι κ : Type) where
  error : Option DatabaseError
  progress : Progress κ
  items : List ι

/-- Fetches at most `n` rows.  At the end and after an error the cursor is closed. -/
def fetch (B : Backend σ κ) (g : Group α) : Nat → κ → List ι → σ → Fetch ι κ × σ
  | 0, c, items, s => (⟨none, .reading c, items⟩, s)
  | n + 1, c, items, s =>
    match B.next c s with
    | (.row row, c', s') => fetch B g n c' (items ++ g.items row) s'
    | (.ended, c', s') => (⟨none, .done, items⟩, (B.close c' s').2.2)
    | (.failed e, c', s') => (⟨some e, .done, items⟩, (B.close c' s').2.2)

/-- Sends the query.  A relation without rows needs no query, and neither does one without
tables: it has a single row without cells. -/
def send (B : Backend σ κ) (r : Reader α ι κ) (s : σ) : Event ι × Reader α ι κ × σ :=
  if r.group.relation.isEmpty then (.quiet, { r with progress := .done }, s)
  else if r.group.relation.database.isNone then
    (.quiet, { r with progress := .done, buffer := r.group.items Row.empty }, s)
  else
    match B.execute r.group.query s with
    | (.ok c, s') => (.quiet, { r with progress := .reading c }, s')
    | (.error e, s') => (.item (.error (.database e)), { r with progress := .done }, s')

/-- Makes a step: gives an item that was fetched, or sends the query, or fetches `n` rows.  A
cancelled reader is closed and forgets its items. -/
def step (B : Backend σ κ) (n : Nat) (r : Reader α ι κ) (s : σ) : Event ι × Reader α ι κ × σ :=
  if B.cancelled s then
    let (closed, s') := r.close B s
    (if r.isRunning then .item (.error .cancelled) else .finished, { closed with buffer := [] }, s')
  else
    match r.buffer with
    | i :: rest => (.item (.ok i), { r with buffer := rest }, s)
    | [] =>
      match r.progress with
      | .waiting => r.send B s
      | .done => (.finished, r, s)
      | .reading c =>
        let (f, s') := fetch B r.group n c [] s
        let r' := { r with progress := f.progress, buffer := f.items }
        match f.error with
        | none => (.quiet, r', s')
        | some e => (.item (.error (.database e)), r', s')

/-- The machine of a reader that fetches `n` rows at a time. -/
def machine (B : Backend σ κ) (n : Nat) : Machine σ (Reader α ι κ) ι where
  step := step B n
  close r s := (r.close B s).2

end Reader

/-! ### Several groups -/

/-- The items of some groups, one group after the other. -/
structure Scan (α ι κ : Type) where
  current : Option (Reader α ι κ)
  rest : List (Group α)

namespace Scan

variable {α ι κ σ : Type} [Member α ι]

/-- The items of some maps. -/
def ofMaps (ms : List α) : Scan α ι κ := ⟨none, Group.ofList ms⟩

/-- Makes a step of the current reader, or goes on to the next group. -/
def step (B : Backend σ κ) (n : Nat) (t : Scan α ι κ) (s : σ) : Event ι × Scan α ι κ × σ :=
  match t.current with
  | some r =>
    match r.step B n s with
    | (.finished, r', s') => (.quiet, { t with current := none }, (r'.close B s').2)
    | (e, r', s') => (e, { t with current := some r' }, s')
  | none =>
    match t.rest with
    | [] => (.finished, t, s)
    | g :: gs => (.quiet, ⟨some (.ofGroup g), gs⟩, s)

/-- Closes the current reader. -/
def close (B : Backend σ κ) (t : Scan α ι κ) (s : σ) : σ :=
  match t.current with
  | some r => (r.close B s).2
  | none => s

end Scan

end RelGraph.Engine
