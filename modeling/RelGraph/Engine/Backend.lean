import RelGraph.Sql.Cursor

/-!
# Databases behind an engine

An engine sends queries to a database and reads their rows through cursors.  What it needs of
the database is a `Backend`: the state `σ` is whatever the database keeps, and `κ` are its
cursors.  The database in memory is one; for tests, a row can be made to fail, and the reading
can be cancelled when a row is fetched.
-/

namespace RelGraph.Engine

open Sql

/-- A database with a state `σ` and cursors `κ`. -/
structure Backend (σ κ : Type) where
  /-- Sends a query. -/
  execute : Select → σ → Except DatabaseError κ × σ
  /-- Fetches the next row of a cursor. -/
  next : κ → σ → Fetched × κ × σ
  /-- Closes a cursor. -/
  close : κ → σ → Except DatabaseError Unit × κ × σ
  /-- The reading was cancelled. -/
  cancelled : σ → Bool

/-- The fetches that do not go as usual, counted over all cursors from 0. -/
structure Faults where
  /-- The fetch that fails. -/
  failing : Option Nat
  /-- The fetch before which the reading is cancelled. -/
  cancelling : Option Nat

/-- All goes as usual. -/
def Faults.none : Faults := ⟨.none, .none⟩

/-- The state of a database in memory. -/
structure Store where
  session : Session
  /-- The number of fetches so far. -/
  fetches : Nat
  cancelled : Bool

namespace Store

/-- The state of a database that was not used yet. -/
def start : Store := ⟨.start, 0, false⟩

/-- Cancels the reading. -/
def cancel (s : Store) : Store := { s with cancelled := true }

/-- Counts a fetch, and cancels the reading if it is time to. -/
def countFetch (s : Store) (faults : Faults) : Store where
  session := s.session
  fetches := s.fetches + 1
  cancelled := s.cancelled || faults.cancelling == some s.fetches

end Store

/-- The database in memory, with some faults. -/
def memoryBackend (db : Database) (faults : Faults) : Backend Store Cursor where
  execute q s :=
    let (r, session) := db.execute q s.session
    (r, { s with session })
  next c s :=
    let s' := s.countFetch faults
    if faults.failing == some s.fetches then (.failed .cursorClosed, c, s')
    else
      let (f, c') := c.next
      (f, c', s')
  close c s :=
    let (r, c', session) := c.close s.session
    (r, c', { s with session })
  cancelled s := s.cancelled

end RelGraph.Engine
