import RelGraph.Sql.Database

/-!
# Cursors

A query is answered through a cursor, which gives its rows one by one until it is closed.  The
session of a database keeps the texts of the queries it was sent and counts the cursors that
are open.
-/

namespace RelGraph.Sql

/-- What has been done on a database so far. -/
structure Session where
  /-- The texts of the queries, failed ones included, in their order. -/
  queries : List String
  /-- The number of cursors that are open. -/
  openCursors : Nat

/-- The session of a database that was not used yet. -/
def Session.start : Session := ⟨[], 0⟩

/-- What a cursor gives when it is asked for a row. -/
inductive Fetched where
  | row (r : Row)
  | ended
  | failed (e : DatabaseError)

/-- The rest of an answer. -/
structure Cursor where
  rows : List Row
  closed : Bool
  failsOnClose : Bool

/-- Sends a query; a query that fails opens no cursor. -/
def Database.execute (db : Database) (q : Select) (s : Session) :
    Except DatabaseError Cursor × Session :=
  let logged := { s with queries := s.queries ++ [q.render] }
  match db.answer q with
  | .ok rows =>
    (.ok ⟨rows, false, db.failsOnClose⟩, { logged with openCursors := logged.openCursors + 1 })
  | .error e => (.error e, logged)

namespace Cursor

/-- Asks for the next row. -/
def next (c : Cursor) : Fetched × Cursor :=
  if c.closed then (.failed .cursorClosed, c)
  else
    match c.rows with
    | [] => (.ended, c)
    | r :: rs => (.row r, { c with rows := rs })

/-- Closes the cursor; to close it again does nothing. -/
def close (c : Cursor) (s : Session) : Except DatabaseError Unit × Cursor × Session :=
  if c.closed then (.ok (), c, s)
  else
    (if c.failsOnClose then .error .closeFailed else .ok (),
      { c with rows := [], closed := true },
      { s with openCursors := s.openCursors - 1 })

end Cursor

end RelGraph.Sql
