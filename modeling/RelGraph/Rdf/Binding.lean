import RelGraph.Order.SortedMap
import RelGraph.Rdf.Term

/-!
# Bindings

A binding gives terms to some variables: it is one solution of a pattern.  Two bindings are
compatible when they agree on the variables that both of them bind, and then they have a
union.
-/

namespace RelGraph.Rdf

/-- The terms of some variables. -/
structure Binding where
  terms : SortedMap Variable Term
  deriving DecidableEq

namespace Binding

/-- The binding of no variable. -/
def empty : Binding := ⟨.empty⟩

/-- The binding of some variables; the last term of a variable counts. -/
def ofList (entries : List (Variable × Term)) : Binding := ⟨.ofList entries⟩

/-- The variables and their terms, by increasing variable. -/
def toList (b : Binding) : List (Variable × Term) := b.terms.entries

/-- The term of a variable. -/
def get? (b : Binding) (v : Variable) : Option Term := b.terms.get? v

/-- The variable has a term. -/
def binds (b : Binding) (v : Variable) : Bool := b.terms.contains v

/-- Gives a variable a term unless it has one. -/
def insert (b : Binding) (v : Variable) (t : Term) : Binding := ⟨b.terms.putNew v t⟩

/-- Takes the term of a variable away. -/
def erase (b : Binding) (v : Variable) : Binding := ⟨b.terms.erase v⟩

/-- The number of the variables. -/
def size (b : Binding) : Nat := b.terms.size

/-- No variable has a term. -/
def isEmpty (b : Binding) : Bool := b.terms.isEmpty

/-- Adds entries, none of which may give a variable another term. -/
def addAll? (b : Binding) : List (Variable × Term) → Option Binding
  | [] => some b
  | (v, t) :: rest =>
    match b.get? v with
    | some t' => if t' = t then b.addAll? rest else none
    | none => addAll? ⟨b.terms.put v t⟩ rest

/-- The union of two bindings that agree on the variables of both. -/
def merge? (a b : Binding) : Option Binding := a.addAll? b.toList

/-- The bindings agree on the variables of both. -/
def compatible (a b : Binding) : Bool :=
  a.toList.all fun e => match b.get? e.1 with
    | some t => t = e.2
    | none => true

/-- Some variable has a term in both bindings. -/
def overlaps (a b : Binding) : Bool :=
  a.toList.any fun e => b.binds e.1

/-- The terms of the given variables only. -/
def restrict (b : Binding) (vs : List Variable) : Binding :=
  ofList (vs.filterMap fun v => (b.get? v).map fun t => (v, t))

end Binding

end RelGraph.Rdf
