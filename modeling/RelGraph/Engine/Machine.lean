import RelGraph.Sparql.Support
import RelGraph.Sql.Value
import RelGraph.Sql.Relation

/-!
# Reading items step by step

Items are read on demand.  A machine makes small steps, which may use a store: a step gives an
item, nothing yet, or the end.  Pulling makes steps until there is an item or the end; an
explicit bound on their number keeps it total.
-/

namespace RelGraph.Engine

/-- What an evaluation can fail with. -/
inductive EvalError where
  | database (e : Sql.DatabaseError)
  | relation (e : Sql.RelationError)
  | unsupported (u : Sparql.Unsupported)
  | cancelled

/-- What went wrong. -/
def EvalError.message : EvalError → String
  | .database e => e.message
  | .relation e => e.message
  | .unsupported u => u.message
  | .cancelled => "The SPARQL operation has been cancelled"

/-- What a step gives. -/
inductive Event (ι : Type) where
  | item (r : Except EvalError ι)
  /-- Nothing yet. -/
  | quiet
  /-- There are no more items. -/
  | finished

/-- What pulling gives. -/
inductive Pulled (ι : Type) where
  | item (r : Except EvalError ι)
  /-- There are no more items. -/
  | ended
  /-- The bound on the number of steps was reached. -/
  | pending

/-- A way of reading items, in states `τ`, from a store `σ`. -/
structure Machine (σ τ ι : Type) where
  step : τ → σ → Event ι × τ × σ
  /-- Gives back what a state holds in the store. -/
  close : τ → σ → σ

namespace Machine

variable {σ τ ι : Type}

/-- Makes at most `fuel` steps, up to an item or the end. -/
def pull (m : Machine σ τ ι) : Nat → τ → σ → Pulled ι × τ × σ
  | 0, t, s => (.pending, t, s)
  | fuel + 1, t, s =>
    match m.step t s with
    | (.item r, t', s') => (.item r, t', s')
    | (.finished, t', s') => (.ended, t', s')
    | (.quiet, t', s') => m.pull fuel t' s'

/-- Pulls unless the reading was cancelled.  A cancelled reading is closed and reported once;
after that there is no state left, and no item. -/
def pullGuarded (m : Machine σ τ ι) (cancelled : σ → Bool) (fuel : Nat) :
    Option τ → σ → Pulled ι × Option τ × σ
  | none, s => (.ended, none, s)
  | some t, s =>
    if cancelled s then (.item (.error .cancelled), none, m.close t s)
    else
      let (p, t', s') := m.pull fuel t s
      (p, some t', s')

/-- Closes what is left of a guarded reading. -/
def closeGuarded (m : Machine σ τ ι) : Option τ → σ → σ
  | none, s => s
  | some t, s => m.close t s

end Machine

end RelGraph.Engine
