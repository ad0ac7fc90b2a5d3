import RelGraph.Engine.Construction
import RelGraph.Engine.Solutions

/-!
# Results

What a query gives, read on demand: the rows of a table, triples, bindings, or a single answer.
A cancelled reading reports this once and gives nothing more.
-/

namespace RelGraph.Engine

open Rdf Sql Sparql Mapping

/-- One of the results. -/
inductive Answer where
  | row (terms : List (Option Term))
  | triple (t : Triple)
  | binding (b : Binding)
  | truth (b : Bool)

/-- The triples of some triple maps, each once. -/
structure Finding (κ : Type) where
  scan : Scan TripleMap Triple κ
  seen : List Triple

namespace Finding

variable {κ σ : Type}

/-- Makes a step; a triple that was given is not given again. -/
def step (B : Backend σ κ) (n : Nat) (f : Finding κ) (s : σ) : Event Triple × Finding κ × σ :=
  match f.scan.step B n s with
  | (.item (.ok t), scan, s') =>
    if t ∈ f.seen then (.quiet, { f with scan }, s')
    else (.item (.ok t), ⟨scan, t :: f.seen⟩, s')
  | (e, scan, s') => (e, { f with scan }, s')

/-- The machine of the triples. -/
def machine (B : Backend σ κ) (n : Nat) : Machine σ (Finding κ) Triple where
  step := step B n
  close f s := f.scan.close B s

end Finding

/-- The triples of a template on solutions. -/
structure Construction (κ : Type) where
  solutions : Option (Solutions κ)
  template : List TriplePattern
  /-- The triples of the last solution that are still to come. -/
  buffer : List Triple
  /-- The triples without blank nodes that have been given. -/
  given : List Triple
  /-- The number of the next solution. -/
  number : Nat

/-- The results that are still to come. -/
inductive Results (κ : Type) where
  /-- The rows of a table. -/
  | table (vs : List Variable) (solutions : Option (Solutions κ))
  | graph (c : Construction κ)
  | triples (f : Option (Finding κ))
  | bindings (solutions : Option (Solutions κ))
  /-- A single result, or none after it was given. -/
  | single (r : Option (Except EvalError Answer))

/-- Changes what was pulled. -/
def Pulled.map {ι μ : Type} (f : ι → μ) : Pulled ι → Pulled μ
  | .item (.ok i) => .item (.ok (f i))
  | .item (.error e) => .item (.error e)
  | .ended => .ended
  | .pending => .pending

namespace Construction

variable {κ σ : Type}

/-- Pulls the next triple, from at most `fuel` solutions. -/
def pull (B : Backend σ κ) (n steps : Nat) :
    Nat → Construction κ → σ → Pulled Triple × Construction κ × σ
  | 0, c, s => (.pending, c, s)
  | fuel + 1, c, s =>
    match c.buffer with
    | t :: rest => (.item (.ok t), { c with buffer := rest }, s)
    | [] =>
      match (Solutions.machine B n).pullGuarded B.cancelled steps c.solutions s with
      | (.item (.ok b), solutions, s') =>
        let (buffer, given) := construct c.number b c.given c.template
        pull B n steps fuel
          { c with solutions, buffer, given, number := c.number + 1 } s'
      | (.item (.error e), solutions, s') => (.item (.error e), { c with solutions }, s')
      | (.ended, solutions, s') => (.ended, { c with solutions }, s')
      | (.pending, solutions, s') => (.pending, { c with solutions }, s')

end Construction

namespace Results

variable {κ σ : Type}

/-- Pulls the next result. -/
def next (B : Backend σ κ) (n fuel : Nat) : Results κ → σ → Pulled Answer × Results κ × σ
  | .table vs solutions, s =>
    let (p, solutions', s') :=
      (Solutions.machine B n).pullGuarded B.cancelled fuel solutions s
    (p.map fun b => .row (vs.map b.get?), .table vs solutions', s')
  | .graph c, s =>
    let (p, c', s') := c.pull B n fuel fuel s
    (p.map .triple, .graph c', s')
  | .triples f, s =>
    let (p, f', s') := (Finding.machine B n).pullGuarded B.cancelled fuel f s
    (p.map .triple, .triples f', s')
  | .bindings solutions, s =>
    let (p, solutions', s') :=
      (Solutions.machine B n).pullGuarded B.cancelled fuel solutions s
    (p.map .binding, .bindings solutions', s')
  | .single (some r), s => (.item r, .single none, s)
  | .single none, s => (.ended, .single none, s)

/-- Closes all the cursors. -/
def close (B : Backend σ κ) (n : Nat) : Results κ → σ → σ
  | .table _ solutions, s => (Solutions.machine B n).closeGuarded solutions s
  | .graph c, s => (Solutions.machine B n).closeGuarded c.solutions s
  | .triples f, s => (Finding.machine B n).closeGuarded f s
  | .bindings solutions, s => (Solutions.machine B n).closeGuarded solutions s
  | .single _, s => s

end Results

end RelGraph.Engine
