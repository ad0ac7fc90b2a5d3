import Mathlib.Tactic.Common
import RelGraph.Sql.Cursor

/-!
# Open cursors of a session

A database and the copies of it share one session.  A client sends queries to any of them, and asks
for rows of and closes any of the cursors that it was given so far, in any order.  In every run of
such requests the session counts exactly the cursors that were given and not closed, whether closing
them was reported as a failure or not, and keeps the text of every query
(`Client.Runs.openCursors_exact`).
-/

namespace RelGraph.Sql

/-- A session, and the cursors that were opened in it, in their order. -/
structure Client where
  session : Session
  cursors : List Cursor

namespace Client

variable {c : Cursor} {cursors : List Cursor} {i : Nat}

/-- What a client can ask for. -/
inductive Request where
  /-- A query is sent.  The copies of a database may have tables of their own, and may report a
  failure when a cursor is closed. -/
  | execute (db : Database) (q : Select)
  /-- The next row of the `i`-th cursor. -/
  | next (i : Nat)
  /-- The `i`-th cursor is closed. -/
  | close (i : Nat)

/-- What a client is answered. -/
inductive Reply where
  | opened
  | refused (e : DatabaseError)
  | fetched (f : Fetched)
  | closed (r : Except DatabaseError Unit)

/-- Does what is asked for, unless it is asked of a cursor that was not opened yet. -/
def perform (u : Client) : Request → Option (Reply × Client)
  | .execute db q =>
    match db.execute q u.session with
    | (.ok c, s) => some (.opened, ⟨s, u.cursors ++ [c]⟩)
    | (.error e, s) => some (.refused e, ⟨s, u.cursors⟩)
  | .next i =>
    u.cursors[i]?.map fun c =>
      (.fetched c.next.1, { u with cursors := u.cursors.set i c.next.2 })
  | .close i =>
    u.cursors[i]?.map fun c =>
      (.closed (c.close u.session).1,
        ⟨(c.close u.session).2.2, u.cursors.set i (c.close u.session).2.1⟩)

/-! ### Histories -/

/-- A request and the answer to it. -/
abbrev Event := Request × Reply

namespace Event

/-- A cursor was opened. -/
def isOpening : Event → Bool
  | (_, .opened) => true
  | _ => false

/-- The `i`-th cursor was closed, whether or not this was reported as a failure. -/
def closes (i : Nat) : Event → Bool
  | (.close j, _) => j == i
  | _ => false

/-- The text of the query that was sent, also of one that failed. -/
def sent : Event → List String
  | (.execute _ q, _) => [q.render]
  | _ => []

end Event

/-- The number of cursors that were opened. -/
def opened (history : List Event) : Nat := history.countP Event.isOpening

/-- The `i`-th cursor was closed. -/
def isClosed (history : List Event) (i : Nat) : Bool := history.any (Event.closes i)

/-- A client has made some requests, one after the other, in a session that was not used before. -/
inductive Runs : List Event → Client → Prop
  | start : Runs [] ⟨.start, []⟩
  | step {history : List Event} {u u' : Client} {request : Request} {reply : Reply}
      (h : Runs history u) (hperform : u.perform request = some (reply, u')) :
    Runs (history ++ [(request, reply)]) u'

theorem opened_concat (history : List Event) (e : Event) :
  opened (history ++ [e]) = opened history + if e.isOpening then 1 else 0
  := by
  rw [opened, List.countP_append, List.countP_singleton]
  rfl

theorem isClosed_concat (history : List Event) (e : Event) (i : Nat) :
  isClosed (history ++ [e]) i = (isClosed history i || e.closes i)
  := by
  simp [isClosed]

/-! ### What a request does -/

/-- The number of cursors that are not closed. -/
def unclosed (cursors : List Cursor) : Nat := cursors.countP fun c => !c.closed

/-- The `i`-th cursor was opened, and is closed. -/
def closedAt (cursors : List Cursor) (i : Nat) : Bool := cursors[i]?.any Cursor.closed

theorem unclosed_pos (h : cursors[i]? = some c) (hc : c.closed = false) :
  0 < unclosed cursors
  := by
  apply List.countP_pos_iff.2 ⟨c, List.mem_of_getElem? h, by simp [hc]⟩

theorem unclosed_set (h : cursors[i]? = some c) (c' : Cursor) :
  unclosed (cursors.set i c') + (if c.closed then 0 else 1)
    = unclosed cursors + if c'.closed then 0 else 1
  := by
  have hpos := unclosed_pos h
  obtain ⟨hi, rfl⟩ := List.getElem?_eq_some_iff.1 h
  rw [unclosed, List.countP_set hi, ← unclosed]
  cases hc : cursors[i].closed with
  | true => cases c'.closed <;> simp
  | false =>
    have hpos := hpos hc
    cases c'.closed <;> simp <;> omega

theorem closedAt_eq_true_iff :
  closedAt cursors i = true ↔ ∃ c, cursors[i]? = some c ∧ c.closed = true
  := by
  rw [closedAt]
  cases cursors[i]? <;> simp

theorem closedAt_set (h : cursors[i]? = some c) (c' : Cursor) (j : Nat) :
  closedAt (cursors.set i c') j = if i = j then c'.closed else closedAt cursors j
  := by
  obtain ⟨hi, -⟩ := List.getElem?_eq_some_iff.1 h
  rw [closedAt, List.getElem?_set]
  split
  · simp
  · rfl

theorem closedAt_concat (cursors : List Cursor) (h : c.closed = false) (j : Nat) :
  closedAt (cursors ++ [c]) j = closedAt cursors j
  := by
  rw [closedAt, closedAt, List.getElem?_append]
  split
  · rfl
  · rename_i hj
    rw [List.getElem?_eq_none (Nat.not_lt.1 hj), List.getElem?_singleton]
    split
    · simp [h]
    · rfl

theorem closed_next (c : Cursor) :
  c.next.2.closed = c.closed
  := by
  rw [Cursor.next]
  split
  · rfl
  · split <;> rfl

theorem closed_close (c : Cursor) (s : Session) :
  (c.close s).2.1.closed = true
  := by
  rw [Cursor.close]
  split
  · assumption
  · rfl

/-- A cursor that is closed stays as it is. -/
theorem close_of_closed (h : c.closed = true) (s : Session) :
  c.close s = (.ok (), c, s)
  := by
  rw [Cursor.close, if_pos h]

theorem next_of_closed (h : c.closed = true) :
  c.next = (.failed .cursorClosed, c)
  := by
  rw [Cursor.next, if_pos h]

theorem queries_close (c : Cursor) (s : Session) :
  (c.close s).2.2.queries = s.queries
  := by
  rw [Cursor.close]
  split <;> rfl

theorem openCursors_close (c : Cursor) (s : Session) :
  (c.close s).2.2.openCursors = s.openCursors - if c.closed then 0 else 1
  := by
  rw [Cursor.close]
  split <;> rfl

/-- What can be done by a request: to open a cursor, to send a query in vain, or to leave one of the
cursors behind in another state. -/
theorem perform_cases {u u' : Client} {request : Request} {reply : Reply}
    (h : u.perform request = some (reply, u')) :
  (∃ db q c, request = .execute db q ∧ reply = .opened ∧ c.closed = false
      ∧ u' = ⟨⟨u.session.queries ++ [q.render], u.session.openCursors + 1⟩, u.cursors ++ [c]⟩)
    ∨ (∃ db q e, request = .execute db q ∧ reply = .refused e
      ∧ u' = ⟨⟨u.session.queries ++ [q.render], u.session.openCursors⟩, u.cursors⟩)
    ∨ (∃ i c, request = .next i ∧ reply = .fetched c.next.1 ∧ u.cursors[i]? = some c
      ∧ u' = ⟨u.session, u.cursors.set i c.next.2⟩)
    ∨ ∃ i c, request = .close i ∧ reply = .closed (c.close u.session).1 ∧ u.cursors[i]? = some c
      ∧ u' = ⟨(c.close u.session).2.2, u.cursors.set i (c.close u.session).2.1⟩
  := by
  cases request with
  | execute db q =>
    rw [perform, Database.execute] at h
    cases hanswer : db.answer q with
    | ok rows =>
      rw [hanswer] at h
      cases h
      left
      use db, q, ⟨rows, false, db.failsOnClose⟩
    | error e =>
      rw [hanswer] at h
      cases h
      right; left
      use db, q, e
  | next i =>
    obtain ⟨c, hc, heq⟩ := Option.map_eq_some_iff.1 h
    cases heq
    right; right; left
    use i, c
  | close i =>
    obtain ⟨c, hc, heq⟩ := Option.map_eq_some_iff.1 h
    cases heq
    right; right; right
    use i, c

/-! ### The account of a session -/

/-- The session and the cursors are as the history tells. -/
structure Accounted (history : List Event) (u : Client) : Prop where
  length : u.cursors.length = opened history
  closed : ∀ i, closedAt u.cursors i = isClosed history i
  openCursors : u.session.openCursors = unclosed u.cursors
  queries : u.session.queries = history.flatMap Event.sent

theorem Accounted.perform {history : List Event} {u u' : Client} {request : Request}
    {reply : Reply} (h : Accounted history u) (hperform : u.perform request = some (reply, u')) :
  Accounted (history ++ [(request, reply)]) u'
  := by
  obtain ⟨hlength, hclosed, hopen, hqueries⟩ := h
  obtain ⟨db, q, c, rfl, rfl, hc, rfl⟩ | ⟨db, q, e, rfl, rfl, rfl⟩ | ⟨i, c, rfl, rfl, hc, rfl⟩
    | ⟨i, c, rfl, rfl, hc, rfl⟩ := perform_cases hperform
  · constructor
    · simp [opened_concat, hlength, Event.isOpening]
    · intro j
      simp [isClosed_concat, closedAt_concat u.cursors hc, hclosed, Event.closes]
    · simp [unclosed, hopen, hc]
    · simp [hqueries, Event.sent]
  · constructor
    · simp [opened_concat, hlength, Event.isOpening]
    · intro j
      simp [isClosed_concat, hclosed, Event.closes]
    · apply hopen
    · simp [hqueries, Event.sent]
  · constructor
    · simp [opened_concat, hlength, Event.isOpening]
    · intro j
      rw [isClosed_concat, closedAt_set hc, closed_next, hclosed]
      split
      · rename_i hij
        rw [← hij, ← hclosed, closedAt, hc]
        simp [Event.closes]
      · simp [Event.closes]
    · have hset := unclosed_set hc c.next.2
      rw [closed_next] at hset
      rw [hopen]
      exact (Nat.add_right_cancel hset).symm
    · simp [hqueries, Event.sent]
  · constructor
    · simp [opened_concat, hlength, Event.isOpening]
    · intro j
      rw [isClosed_concat, closedAt_set hc, closed_close, hclosed]
      by_cases hij : i = j <;> simp [Event.closes, hij]
    · have hset := unclosed_set hc (c.close u.session).2.1
      rw [closed_close] at hset
      simp only [openCursors_close, hopen]
      simp only [if_pos] at hset
      omega
    · simp [queries_close, hqueries, Event.sent]

/-- After every run the session and the cursors are as the history tells. -/
theorem Runs.accounted {history : List Event} {u : Client} (h : Runs history u) :
  Accounted history u
  := by
  induction h with
  | start =>
    constructor
    · rfl
    · intro i
      rfl
    · rfl
    · rfl
  | step _ hperform ih => apply ih.perform hperform

/-- The cursors that are not closed, counted by their numbers. -/
theorem unclosed_eq_countP_range (cursors : List Cursor) :
  unclosed cursors = (List.range cursors.length).countP fun i => !closedAt cursors i
  := by
  induction cursors with
  | nil => rfl
  | cons c cursors ih =>
    rw [unclosed] at ih
    rw [unclosed, List.countP_cons, ih, List.length_cons, List.range_succ_eq_map, List.countP_cons,
      List.countP_map]
    rfl

/-- In every run, the session counts the cursors that were opened and not closed, and keeps the text
of every query.  To close a cursor that was not closed before takes one off a count that is not
zero; a cursor that was closed before can be closed again, which changes nothing, and gives no
row. -/
theorem Runs.openCursors_exact {history : List Event} {u : Client} (h : Runs history u) :
  u.session.openCursors = (List.range (opened history)).countP (fun i => !isClosed history i)
    ∧ u.session.queries = history.flatMap Event.sent
    ∧ (∀ i < opened history, isClosed history i = false → ∃ r u',
      u.perform (.close i) = some (.closed r, u')
        ∧ u'.session.openCursors + 1 = u.session.openCursors)
    ∧ ∀ i, isClosed history i = true →
      u.perform (.close i) = some (.closed (.ok ()), u)
        ∧ u.perform (.next i) = some (.fetched (.failed .cursorClosed), u)
  := by
  obtain ⟨hlength, hclosed, hopen, hqueries⟩ := h.accounted
  refine ⟨?_, hqueries, ?_, ?_⟩
  · rw [hopen, unclosed_eq_countP_range, hlength]
    simp only [hclosed]
  · intro i hi hunclosed
    rw [← hlength] at hi
    have hc := List.getElem?_eq_getElem hi
    rw [← hclosed, closedAt, hc, Option.any_some] at hunclosed
    have hpos := unclosed_pos hc hunclosed
    use (u.cursors[i].close u.session).1
    refine ⟨_, by rw [perform, hc, Option.map_some], ?_⟩
    rw [openCursors_close, hunclosed, hopen, if_neg (by simp)]
    omega
  · intro i hi
    rw [← hclosed, closedAt_eq_true_iff] at hi
    obtain ⟨c, hc, hi⟩ := hi
    have hset : u.cursors.set i c = u.cursors := by
      obtain ⟨hlt, rfl⟩ := List.getElem?_eq_some_iff.1 hc
      apply List.set_getElem_self
    constructor
    · rw [perform, hc, Option.map_some, close_of_closed hi, hset]
    · rw [perform, hc, Option.map_some, next_of_closed hi, hset]

/-! ### A database that reports failures -/

/-- A database without tables, which reports a failure when a cursor is closed. -/
def stubborn : Database := ⟨.empty, true⟩

/-- The query for the one row without columns. -/
def unit : Select := ⟨.trivial⟩

/-- A query for a table that the database does not have. -/
def people : Select := ⟨Relation.trivial.project [⟨⟨none, "people"⟩, "id"⟩]⟩

/-- Three queries are sent, of which one fails, and the first cursor is closed. -/
def exchange : List Event :=
  [(.execute stubborn unit, .opened),
    (.execute stubborn people, .refused (.unknownTable ⟨none, "people"⟩)),
    (.execute stubborn unit, .opened),
    (.close 0, .closed (.error .closeFailed))]

/-- What is left of the exchange. -/
def remainder : Client :=
  ⟨⟨["SELECT 1", "SELECT people.id FROM people", "SELECT 1"], 1⟩,
    [⟨[], true, true⟩, ⟨[⟨[]⟩], false, true⟩]⟩

theorem runs_exchange :
  Runs exchange remainder
  := by
  have h := Runs.start
  have h := h.step (show perform _ (.execute stubborn unit) = some (.opened,
    ⟨⟨["SELECT 1"], 1⟩, [⟨[⟨[]⟩], false, true⟩]⟩) from rfl)
  have h := h.step (show perform _ (.execute stubborn people)
    = some (.refused (.unknownTable ⟨none, "people"⟩),
      ⟨⟨["SELECT 1", "SELECT people.id FROM people"], 1⟩, [⟨[⟨[]⟩], false, true⟩]⟩) from rfl)
  have h := h.step (show perform _ (.execute stubborn unit) = some (.opened,
    ⟨⟨["SELECT 1", "SELECT people.id FROM people", "SELECT 1"], 2⟩,
      [⟨[⟨[]⟩], false, true⟩, ⟨[⟨[]⟩], false, true⟩]⟩) from rfl)
  apply h.step (show perform _ (.close 0) = some (.closed (.error .closeFailed), remainder) from rfl)

theorem openCursors_exact_exchange :
  Runs exchange remainder ∧ opened exchange = 2 ∧ isClosed exchange 0 = true
    ∧ remainder.session.openCursors = 1
    ∧ remainder.perform (.close 0) = some (.closed (.ok ()), remainder)
    ∧ remainder.perform (.next 0) = some (.fetched (.failed .cursorClosed), remainder)
  := by
  obtain ⟨hcount, -, -, hclosed⟩ := runs_exchange.openCursors_exact
  exact ⟨runs_exchange, rfl, rfl, hcount, hclosed 0 rfl⟩

end Client

end RelGraph.Sql
