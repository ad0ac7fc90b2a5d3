import RelGraph.Sparql.Expression

/-!
# Writing expressions

The text of expressions in explanations of plans: each one is its name and its operands in
brackets.
-/

namespace RelGraph.Sparql

open Rdf

/-- A text in double quotes. -/
def quoted (s : String) : String :=
  "\"" ++ String.ofList (s.toList.flatMap fun c =>
    if c = '"' || c = '\\' then ['\\', c] else [c]) ++ "\""

/-- A record with its fields. -/
def recordText (name : String) (fields : List (String × String)) : String :=
  name ++ " \x7b " ++ ", ".intercalate (fields.map fun f => f.1 ++ ": " ++ f.2) ++ " \x7d"

/-- A name with its operands. -/
def callText (name : String) (operands : List String) : String :=
  name ++ "(" ++ ", ".intercalate operands ++ ")"

/-- A list. -/
def listText (items : List String) : String :=
  "[" ++ ", ".intercalate items ++ "]"

/-- The text of an IRI. -/
def iriText (i : Iri) : String :=
  recordText "NamedNode" [("iri", quoted i.text)]

/-- The text of a variable. -/
def variableText (v : Variable) : String :=
  recordText "Variable" [("name", quoted v.name)]

/-- The text of a literal. -/
def literalText (l : Literal) : String :=
  callText "Literal" [match l with
    | .simple value => callText "String" [quoted value]
    | .tagged value language =>
      recordText "LanguageTaggedString" [("value", quoted value), ("language", quoted language)]
    | .typed value datatype _ =>
      recordText "TypedLiteral" [("value", quoted value), ("datatype", iriText datatype)]]

/-- The name of a function. -/
def Function.text : Function → String
  | .str => "Str"
  | .lang => "Lang"
  | .langMatches => "LangMatches"
  | .datatype => "Datatype"
  | .iri => "Iri"
  | .strLen => "StrLen"
  | .uCase => "UCase"
  | .lCase => "LCase"
  | .contains => "Contains"
  | .strStarts => "StrStarts"
  | .strEnds => "StrEnds"
  | .isIri => "IsIri"
  | .isBlank => "IsBlank"
  | .isLiteral => "IsLiteral"
  | .isNumeric => "IsNumeric"
  | .regex => "Regex"

/-- The name of a test. -/
def Comparison.text : Comparison → String
  | .greater => "Greater"
  | .greaterOrEqual => "GreaterOrEqual"
  | .less => "Less"
  | .lessOrEqual => "LessOrEqual"

/-- The name of an operation. -/
def Operation.text : Operation → String
  | .add => "Add"
  | .subtract => "Subtract"
  | .multiply => "Multiply"
  | .divide => "Divide"

namespace Expression

mutual

/-- The text of an expression. -/
def text : Expression → String
  | .iri i => callText "NamedNode" [iriText i]
  | .literal l => callText "Literal" [literalText l]
  | .variable v => callText "Variable" [variableText v]
  | .or es => callText "Or" [listText (texts es)]
  | .and es => callText "And" [listText (texts es)]
  | .equal a b => callText "Equal" [text a, text b]
  | .sameTerm a b => callText "SameTerm" [text a, text b]
  | .compare test a b => callText test.text [text a, text b]
  | .arithmetic op a b => callText op.text [text a, text b]
  | .plus e => callText "UnaryPlus" [text e]
  | .minus e => callText "UnaryMinus" [text e]
  | .not e => callText "Not" [text e]
  | .bound v => callText "Bound" [variableText v]
  | .choose a b c => callText "If" [text a, text b, text c]
  | .coalesce es => callText "Coalesce" [listText (texts es)]
  | .call f es => callText "FunctionCall" [f.text, listText (texts es)]

/-- The texts of some expressions. -/
def texts : List Expression → List String
  | [] => []
  | e :: es => text e :: texts es

end

end Expression

end RelGraph.Sparql
