import RelGraph.Rdf.TriplePattern
import RelGraph.Sparql.Expression

/-!
# The algebra of queries

What a query can say.  Not all of it can be evaluated: see `RelGraph.Sparql.Support`.
-/

namespace RelGraph.Sparql.Algebra

open Rdf

/-- The name of a function in a query. -/
inductive FunctionName where
  | known (f : Function)
  /-- A function that the language has, but that can not be called here. -/
  | builtin (name : String)
  | custom (i : Iri)

mutual

/-- An expression of a query. -/
inductive Expr where
  | iri (i : Iri)
  | literal (l : Literal)
  | variable (v : Variable)
  | or (a b : Expr)
  | and (a b : Expr)
  | equal (a b : Expr)
  | sameTerm (a b : Expr)
  | compare (test : Comparison) (a b : Expr)
  /-- The value is one of a list. -/
  | member (e : Expr) (es : List Expr)
  | arithmetic (op : Operation) (a b : Expr)
  | plus (e : Expr)
  | minus (e : Expr)
  | not (e : Expr)
  /-- The pattern has a solution. -/
  | hasSolution (p : Pattern)
  | bound (v : Variable)
  | choose (condition yes no : Expr)
  | coalesce (es : List Expr)
  | call (f : FunctionName) (es : List Expr)

/-- A graph pattern of a query. -/
inductive Pattern where
  | bgp (patterns : List TriplePattern)
  | join (left right : Pattern)
  | leftJoin (left right : Pattern) (condition : Option Expr)
  | filter (condition : Expr) (inner : Pattern)
  | union (left right : Pattern)
  | minus (left right : Pattern)
  | extend (inner : Pattern) (v : Variable) (e : Expr)
  | values (vs : List Variable) (rows : List (List (Option Term)))
  | orderBy (inner : Pattern) (keys : List SortKey)
  | project (inner : Pattern) (vs : List Variable)
  | distinct (inner : Pattern)
  | reduced (inner : Pattern)
  | slice (inner : Pattern) (start : Nat) (length : Option Nat)
  | path
  | group (inner : Pattern)
  | graph (inner : Pattern)
  | service (inner : Pattern)

/-- An expression by whose values solutions are sorted. -/
inductive SortKey where
  | ascending (e : Expr)
  | descending (e : Expr)

end

/-- What a query asks for. -/
inductive Form where
  /-- The table of the solutions. -/
  | select
  /-- Whether there is a solution. -/
  | ask
  /-- The triples that a template gives on the solutions. -/
  | construct (template : List TriplePattern)
  /-- The description of some resources. -/
  | describe

/-- A query. -/
structure Query where
  form : Form
  pattern : Pattern
  /-- The query names the graphs it is about. -/
  namesGraphs : Bool

end RelGraph.Sparql.Algebra
