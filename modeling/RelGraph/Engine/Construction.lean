import RelGraph.Rdf.Binding
import RelGraph.Rdf.TriplePattern

/-!
# Constructed triples

A template gives triples on each solution.  Its blank nodes are new ones for every solution.
A triple is left out if a variable of it has no term or if a term can not stand at its
position, and a triple without blank nodes is given only once.
-/

namespace RelGraph.Engine

open Rdf

/-- The term at a position of a template for the solution with a number. -/
def instantiatePosition (number : Nat) (b : Binding) : Position → Option Term
  | .term (.blank (.named label)) => some (.blank (.fresh number label))
  | .term t => some t
  | .variable v => b.get? v

/-- The triple of a template for the solution with a number. -/
def instantiate (number : Nat) (b : Binding) (p : TriplePattern) : Option Triple := do
  let s ← instantiatePosition number b p.subject
  let p' ← instantiatePosition number b p.predicate
  let o ← instantiatePosition number b p.object
  Triple.ofTerms? s p' o

/-- The triple has a blank node. -/
def hasBlank (t : Triple) : Bool :=
  t.subject.toTerm.isBlank || t.object.isBlank

/-- The triples of a template on a solution that are given, and all the triples without blank
nodes that have been given so far. -/
def construct (number : Nat) (b : Binding) (given : List Triple) :
    List TriplePattern → List Triple × List Triple
  | [] => ([], given)
  | p :: ps =>
    match instantiate number b p with
    | none => construct number b given ps
    | some t =>
      if hasBlank t then
        let (ts, given') := construct number b given ps
        (t :: ts, given')
      else if t ∈ given then construct number b given ps
      else
        let (ts, given') := construct number b (t :: given) ps
        (t :: ts, given')

end RelGraph.Engine
