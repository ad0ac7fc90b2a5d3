import RelGraph.Mapping.Agreement
import RelGraph.Mapping.SolutionMap
import RelGraph.Mapping.TripleMap

/-!
# Solution maps of basic graph patterns

The solutions of some triple patterns are found by assigning a triple map to each of them.
Each assignment on which the occurrences of every variable can agree is a solution map: the
join of the relations of its triple maps.  The bindings of all of them together are the
solutions.
-/

namespace RelGraph.Mapping

open Rdf Sql

/-- A pattern and the triple map that its triples come from. -/
abbrev Choice := TriplePattern × TripleMap

/-- The term maps at the variables of a choice, in the order of the positions. -/
def Choice.occurrences (c : Choice) : List (Variable × TermMap) :=
  (c.1.positions.zip c.2.termMaps).filterMap fun p => p.1.asVariable?.map fun v => (v, p.2)

/-- Triple maps assigned to some of the patterns. -/
structure Assignment where
  choices : List Choice
  /-- The condition under which the occurrences of the variables agree. -/
  condition : Expr
  /-- The variables whose terms have to be compared on each row. -/
  compared : List Variable

namespace Assignment

/-- Nothing is assigned. -/
def empty : Assignment := ⟨[], .always, []⟩

/-- The condition under which the occurrences of a variable agree, and whether their terms
have to be compared; none if they never agree. -/
def agreement? (occurrences : List (Variable × TermMap)) (v : Variable) : Option (Expr × Bool) :=
  let maps := (occurrences.filter fun o => o.1 = v).map (·.2)
  if maps.length ≤ 1 then some (.always, false)
  else
    match (Occurrences.ofList maps).verdict with
    | .never => none
    | .exactly condition => some (condition, false)
    | .compared condition => some (condition, true)

/-- Assigns a triple map to one more pattern; none if the occurrences of a variable can not
agree any more. -/
def extend? (a : Assignment) (c : Choice) : Option Assignment := do
  let choices := a.choices ++ [c]
  let occurrences := choices.flatMap Choice.occurrences
  let vs := canonical (occurrences.map (·.1))
  let agreements ← vs.mapM (agreement? occurrences)
  return {
    choices
    condition := Expr.andAll (agreements.map (·.1))
    compared := (vs.zip agreements).filterMap fun p => if p.2.2 then some p.1 else none }

/-- Gives each variable the term map of its first occurrence, and collects the later
occurrences of the compared variables. -/
def collect (compared : List Variable) :
    List (Variable × TermMap) → SortedMap Variable TermMap → List (Variable × TermMap)
      → SortedMap Variable TermMap × List (Variable × TermMap)
  | [], terms, checks => (terms, checks)
  | (v, m) :: rest, terms, checks =>
    if terms.contains v then
      collect compared rest terms (if v ∈ compared then checks ++ [(v, m)] else checks)
    else collect compared rest (terms.put v m) checks

/-- The solution map of an assignment. -/
def toSolutionMap (a : Assignment) : Except RelationError SolutionMap := do
  let joined ← Relation.joinAll (a.choices.map fun c => c.2.relation)
  let (terms, checks) := collect a.compared (a.choices.flatMap Choice.occurrences) .empty []
  return .build (joined.select a.condition) terms checks

end Assignment

/-- The triple maps that have triples of a pattern.  If the tables have to be told apart, each
of them reads a copy of its own, and the copies are numbered on from `n`. -/
def candidates (copies : Bool) (p : TriplePattern) (n : Nat) :
    List TripleMap → Except RelationError (List TripleMap × Nat)
  | [] => .ok ([], n)
  | m :: ms =>
    match m.selectPattern? p with
    | none => candidates copies p n ms
    | some selected =>
      if copies then
        match selected.copy (n + 1) with
        | .error e => .error (.aliases e)
        | .ok copied => do
          let (rest, n') ← candidates copies p (n + 1) ms
          return (copied :: rest, n')
      else do
        let (rest, n') ← candidates copies p n ms
        return (selected :: rest, n')

/-- The candidates of each pattern; none if some pattern has no candidate. -/
def allCandidates (copies : Bool) (maps : List TripleMap) (n : Nat) :
    List TriplePattern → Except RelationError (Option (List (TriplePattern × List TripleMap)))
  | [] => .ok (some [])
  | p :: ps => do
    let (found, n') ← candidates copies p n maps
    if found.isEmpty then return none
    else
      let rest ← allCandidates copies maps n' ps
      return rest.map ((p, found) :: ·)

/-- Assigns one of its candidates to a pattern, in all possible ways. -/
def extendAll (as : List Assignment) (c : TriplePattern × List TripleMap) : List Assignment :=
  as.flatMap fun a => c.2.filterMap fun m => a.extend? (c.1, m)

/-- The solution maps of some triple patterns.  Patterns with fewer candidates are assigned
first. -/
def solutionMaps (patterns : List TriplePattern) (maps : List TripleMap) :
    Except RelationError (List SolutionMap) :=
  if patterns.isEmpty then .ok [.trivial]
  else do
    match ← allCandidates (1 < patterns.length) maps 0 patterns with
    | none => return []
    | some found =>
      let ordered := found.mergeSort fun a b => a.2.length ≤ b.2.length
      let solutions ← (ordered.foldl extendAll [.empty]).mapM Assignment.toSolutionMap
      return solutions.filter fun m => !m.isEmpty

end RelGraph.Mapping
