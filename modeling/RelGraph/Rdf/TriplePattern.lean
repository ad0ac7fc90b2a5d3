import RelGraph.Rdf.Term

/-!
# Triple patterns

A triple pattern has a term or a variable at each of its three positions.
-/

namespace RelGraph.Rdf

/-- A position of a triple pattern. -/
inductive Position where
  | term (t : Term)
  | variable (v : Variable)
  deriving DecidableEq

namespace Position

/-- The term at a position. -/
def term? : Position → Option Term
  | .term t => some t
  | .variable _ => none

/-- The variable at a position. -/
def asVariable? : Position → Option Variable
  | .term _ => none
  | .variable v => some v

/-- Writes a position. -/
def render : Position → String
  | .term t => t.render
  | .variable v => v.render

end Position

/-- A triple with variables. -/
structure TriplePattern where
  subject : Position
  predicate : Position
  object : Position
  deriving DecidableEq

namespace TriplePattern

/-- The three positions. -/
def positions (p : TriplePattern) : List Position :=
  [p.subject, p.predicate, p.object]

/-- The variables of a pattern, in the order of the positions. -/
def variableList (p : TriplePattern) : List Variable :=
  p.positions.filterMap Position.asVariable?

/-- Writes a pattern. -/
def render (p : TriplePattern) : String :=
  " ".intercalate (p.positions.map Position.render)

end TriplePattern

end RelGraph.Rdf
