import RelGraph.Order.Canonical
import RelGraph.Rdf.Term

/-!
# Expressions

The expressions of filters, and the ways of building them.  `andAll`, `orAll` and `negation`
simplify constants away; they keep the truth value of what they are given, which is true,
false or an error.
-/

namespace RelGraph.Sparql

open Rdf

/-- The functions that can be called. -/
inductive Function where
  | str
  | lang
  | langMatches
  | datatype
  | iri
  | strLen
  | uCase
  | lCase
  | contains
  | strStarts
  | strEnds
  | isIri
  | isBlank
  | isLiteral
  | isNumeric
  | regex
  deriving DecidableEq

/-- The tests on the order of two values. -/
inductive Comparison where
  | greater
  | greaterOrEqual
  | less
  | lessOrEqual
  deriving DecidableEq

/-- The operations on two numbers. -/
inductive Operation where
  | add
  | subtract
  | multiply
  | divide
  deriving DecidableEq

/-- An expression. -/
inductive Expression where
  | iri (i : Iri)
  | literal (l : Literal)
  | variable (v : Variable)
  | or (es : List Expression)
  | and (es : List Expression)
  | equal (a b : Expression)
  | sameTerm (a b : Expression)
  | compare (test : Comparison) (a b : Expression)
  | arithmetic (op : Operation) (a b : Expression)
  | plus (e : Expression)
  | minus (e : Expression)
  | not (e : Expression)
  | bound (v : Variable)
  | choose (condition yes no : Expression)
  | coalesce (es : List Expression)
  | call (f : Function) (es : List Expression)
  deriving Inhabited

namespace Expression

/-- A constant condition. -/
def ofBool (b : Bool) : Expression := .literal (.ofBool b)

/-- The truth value of a literal that is a truth value or a string. -/
def literalTruth? (l : Literal) : Option Bool :=
  if l.datatype = Datatype.boolean then
    if l.value = "true" || l.value = "1" then some true
    else if l.value = "false" || l.value = "0" then some false
    else none
  else if l.datatype = Datatype.string then some (l.value ≠ "")
  else none

/-- The truth value of a constant condition. -/
def truth? : Expression → Option Bool
  | .literal l => literalTruth? l
  | _ => none

/-! ### Variables -/

mutual

/-- The variables of an expression, in the order in which they occur. -/
def variableList : Expression → List Variable
  | .iri _ => []
  | .literal _ => []
  | .variable v => [v]
  | .or es => variableLists es
  | .and es => variableLists es
  | .equal a b => variableList a ++ variableList b
  | .sameTerm a b => variableList a ++ variableList b
  | .compare _ a b => variableList a ++ variableList b
  | .arithmetic _ a b => variableList a ++ variableList b
  | .plus e => variableList e
  | .minus e => variableList e
  | .not e => variableList e
  | .bound v => [v]
  | .choose a b c => variableList a ++ variableList b ++ variableList c
  | .coalesce es => variableLists es
  | .call _ es => variableLists es

/-- The variables of some expressions, in the order in which they occur. -/
def variableLists : List Expression → List Variable
  | [] => []
  | e :: es => variableList e ++ variableLists es

end

/-- The variables of an expression, in increasing order. -/
def variableSet (e : Expression) : List Variable :=
  canonical e.variableList

/-! ### Building conditions -/

/-- The functions whose results are truth values. -/
def returnsTruth : Function → Bool
  | .isIri | .isBlank | .isLiteral | .isNumeric | .langMatches | .contains | .strStarts
  | .strEnds | .regex => true
  | _ => false

/-- The value of the expression can only be a truth value. -/
def isCondition : Expression → Bool
  | .or _ | .and _ | .equal _ _ | .sameTerm _ _ | .compare _ _ _ | .not _ | .bound _ => true
  | .call f _ => returnsTruth f
  | .literal l => l.datatype = Datatype.boolean
  | .choose _ b c => isCondition b && isCondition c
  | _ => false

/-- The expression as a condition: a conjunction of its own if its value may be something
else. -/
def toCondition (e : Expression) : Expression :=
  if e.isCondition then e else .and [e]

/-- The operands of a conjunction up to the first false one, without the true ones, and with
those of nested conjunctions in place of these; none if there is a false one. -/
def conjuncts? : List Expression → Option (List Expression)
  | [] => some []
  | e :: es =>
    match e.truth? with
    | some false => none
    | some true => conjuncts? es
    | none =>
      (conjuncts? es).map fun rest =>
        match e with
        | .and inner => inner ++ rest
        | e => e :: rest

/-- The operands of a disjunction, without the false ones, and with those of nested
disjunctions in place of these; none if there is a true one. -/
def disjuncts? : List Expression → Option (List Expression)
  | [] => some []
  | e :: es =>
    match e.truth? with
    | some true => none
    | some false => disjuncts? es
    | none =>
      (disjuncts? es).map fun rest =>
        match e with
        | .or inner => inner ++ rest
        | e => e :: rest

/-- The conjunction of some conditions. -/
def andAll (es : List Expression) : Expression :=
  match conjuncts? es with
  | none => ofBool false
  | some [] => ofBool true
  | some [e] => e.toCondition
  | some operands => .and operands

/-- The disjunction of some conditions. -/
def orAll (es : List Expression) : Expression :=
  match disjuncts? es with
  | none => ofBool true
  | some [] => ofBool false
  | some [e] => e.toCondition
  | some operands => .or operands

/-- The negation of a condition. -/
def negation (e : Expression) : Expression :=
  match e.truth? with
  | some b => ofBool !b
  | none => .not e

mutual

/-- The conditions of which an expression is the conjunction, without constant true ones. -/
def conjunctList : Expression → List Expression
  | .and es => conjunctLists es
  | e => if e.truth? = some true then [] else [e]

/-- The conditions of which some expressions are the conjunction. -/
def conjunctLists : List Expression → List Expression
  | [] => []
  | e :: es => conjunctList e ++ conjunctLists es

end

end Expression

end RelGraph.Sparql
