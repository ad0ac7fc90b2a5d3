import RelGraph.Mapping.TermMap
import RelGraph.Order.Canonical

/-!
# Agreement of term maps

A variable that occurs several times in a pattern is given a term by several term maps, and
they have to give the same one.  From the occurrences alone it is decided whether they can
agree at all, and under which condition on a row they do.  The verdict depends on the set of
the occurrences only.
-/

namespace RelGraph.Mapping

open Rdf Sql

/-- The term maps that have to give one and the same term. -/
structure Occurrences where
  /-- The terms of the fixed ones, each once. -/
  terms : List Term
  /-- The other ones, in increasing order. -/
  typed : List (TermKind × ValueMap)

/-- Whether term maps can give the same term. -/
inductive Agreement where
  /-- They never do. -/
  | never
  /-- They do exactly when the condition holds. -/
  | exactly (condition : Expr)
  /-- They do only when the condition holds, but then the terms still have to be compared. -/
  | compared (condition : Expr)

namespace Occurrences

/-- No occurrence. -/
def empty : Occurrences := ⟨[], []⟩

/-- Adds an occurrence. -/
def add (o : Occurrences) : TermMap → Occurrences
  | .fixed t => if t ∈ o.terms then o else { o with terms := o.terms ++ [t] }
  | .typed kind value => { o with typed := place (kind, value) o.typed }

/-- The given occurrences. -/
def ofList (ms : List TermMap) : Occurrences :=
  ms.foldl add empty

/-- The condition under which all the value maps give a term. -/
def allGive (kind : TermKind) (values : List ValueMap) (t : Term) : Expr :=
  Expr.andAll (values.map fun v => Expr.orAll ((kind.textsOf t).map v.conditionFor))

/-- The condition under which all the value maps give the same text: each of them is compared
with the first. -/
def allEqual : List ValueMap → Expr
  | [] => .always
  | v :: vs => Expr.andAll (vs.map v.agreement)

/-- The verdict for a condition that says exactly when the term maps agree. -/
def exactlyWhen (condition : Expr) : Agreement :=
  if condition = .never then .never else .exactly condition

/-- The verdict on value maps whose texts stand for terms of one kind. -/
def verdictOf (kind : TermKind) (values : List ValueMap) : Agreement :=
  if values.length = 1 then .exactly .always
  else if kind.isInjective then exactlyWhen (allEqual values)
  else
    match kind.allTerms? with
    | some terms => exactlyWhen (Expr.orAll (terms.map (allGive kind values)))
    | none => if allEqual values = .never then .never else .compared .always

/-- The verdict on the occurrences. -/
def verdict (o : Occurrences) : Agreement :=
  if 1 < o.terms.length then .never
  else
    match o.typed with
    | [] => .exactly .always
    | (kind, value) :: rest =>
      if rest.any fun p => p.1 ≠ kind then .never
      else
        let values := value :: rest.map (·.2)
        match o.terms with
        | t :: _ => exactlyWhen (allGive kind values t)
        | [] => verdictOf kind values

end Occurrences

end RelGraph.Mapping
