import RelGraph.Order.Spelled
import RelGraph.Text.Percent

/-!
# RDF terms

IRIs, blank nodes and literals, the triples they make, and the variables that stand for them
in queries.  A literal of the datatype of strings is a simple one, so that each literal is
written in one way only.
-/

namespace RelGraph.Rdf

/-- An IRI, by its text. -/
structure Iri where
  text : String
  deriving DecidableEq

instance : Spelled Iri :=
  Spelled.ofInjective Iri.text fun {a b} h => by
    cases a; cases b; simpa using h

/-- A variable of a query, by its name. -/
structure Variable where
  name : String
  deriving DecidableEq

instance : Spelled Variable :=
  Spelled.ofInjective Variable.name fun {a b} h => by
    cases a; cases b; simpa using h

/-- A blank node: one with a label, or one that a query made for a label of its template and
one of its solutions. -/
inductive BlankNode where
  | named (label : String)
  | fresh (solution : Nat) (label : String)
  deriving DecidableEq

/-! ### Datatypes -/

namespace Datatype

/-- A datatype of XML Schema. -/
def xsd (name : String) : Iri := ⟨"http://www.w3.org/2001/XMLSchema#" ++ name⟩

def string : Iri := xsd "string"
def boolean : Iri := xsd "boolean"
def integer : Iri := xsd "integer"
def decimal : Iri := xsd "decimal"
def float : Iri := xsd "float"
def double : Iri := xsd "double"
def dateTime : Iri := xsd "dateTime"
def date : Iri := xsd "date"

/-- The datatype of the literals with a language. -/
def langString : Iri := ⟨"http://www.w3.org/1999/02/22-rdf-syntax-ns#langString"⟩

end Datatype

/-! ### Terms -/

/-- A literal: a text with a datatype or a language. -/
inductive Literal where
  | simple (value : String)
  | tagged (value language : String)
  | typed (value : String) (datatype : Iri) (ne : datatype ≠ Datatype.string)
  deriving DecidableEq

namespace Literal

/-- The literal of a text and a datatype. -/
def ofDatatype (value : String) (datatype : Iri) : Literal :=
  if h : datatype = Datatype.string then .simple value else .typed value datatype h

/-- The literal of a truth value. -/
def ofBool (b : Bool) : Literal :=
  ofDatatype (if b then "true" else "false") Datatype.boolean

/-- The text of a literal. -/
def value : Literal → String
  | .simple v => v
  | .tagged v _ => v
  | .typed v _ _ => v

/-- The datatype of a literal. -/
def datatype : Literal → Iri
  | .simple _ => Datatype.string
  | .tagged _ _ => Datatype.langString
  | .typed _ d _ => d

/-- The language of a literal. -/
def language? : Literal → Option String
  | .tagged _ l => some l
  | _ => none

end Literal

/-- An RDF term. -/
inductive Term where
  | iri (i : Iri)
  | blank (b : BlankNode)
  | literal (l : Literal)
  deriving DecidableEq

namespace Term

/-- The term is an IRI. -/
def isIri : Term → Bool
  | .iri _ => true
  | _ => false

/-- The term is a blank node. -/
def isBlank : Term → Bool
  | .blank _ => true
  | _ => false

/-- The term is a literal. -/
def isLiteral : Term → Bool
  | .literal _ => true
  | _ => false

end Term

/-- What a triple can be about. -/
inductive Subject where
  | iri (i : Iri)
  | blank (b : BlankNode)
  deriving DecidableEq

/-- The subject as a term. -/
def Subject.toTerm : Subject → Term
  | .iri i => .iri i
  | .blank b => .blank b

/-- The term as a subject; a literal is none. -/
def Term.toSubject? : Term → Option Subject
  | .iri i => some (.iri i)
  | .blank b => some (.blank b)
  | .literal _ => none

/-- A triple of a graph. -/
structure Triple where
  subject : Subject
  predicate : Iri
  object : Term
  deriving DecidableEq

/-- The triple of three terms, if they can stand at their positions. -/
def Triple.ofTerms? (s p o : Term) : Option Triple :=
  match p, s.toSubject? with
  | .iri p, some s => some ⟨s, p, o⟩
  | _, _ => none

theorem Triple.ofTerms?_eq_some_iff {s p o : Term} {t : Triple} :
  Triple.ofTerms? s p o = some t ↔ s = t.subject.toTerm ∧ p = .iri t.predicate ∧ o = t.object
  := by
  obtain ⟨subject, predicate, object⟩ := t
  rcases p with p | p | p <;> rcases s with s | s | s <;> rcases subject with subject | subject <;>
    simp [Triple.ofTerms?, Term.toSubject?, Subject.toTerm]

/-! ### Writing terms -/

/-- A code point as four hexadecimal digits. -/
def hex4 (n : Nat) : List Char :=
  [n / 4096, n / 256, n / 16, n].map fun k => Text.hexDigit (k % 16)

/-- A character of a quoted text. -/
def escapeChar (c : Char) : List Char :=
  match c.toNat with
  | 0x08 => ['\\', 'b']
  | 0x09 => ['\\', 't']
  | 0x0A => ['\\', 'n']
  | 0x0C => ['\\', 'f']
  | 0x0D => ['\\', 'r']
  | 0x22 => ['\\', '"']
  | 0x5C => ['\\', '\\']
  | n =>
    if n < 0x20 || n = 0x7F || n = 0xFFFE || n = 0xFFFF then ['\\', 'u'] ++ hex4 n
    else [c]

/-- A text in double quotes. -/
def quoteText (s : String) : String :=
  "\"" ++ String.ofList (s.toList.flatMap escapeChar) ++ "\""

/-- Writes an IRI between angle brackets. -/
def Iri.render (i : Iri) : String := "<" ++ i.text ++ ">"

/-- Writes a variable. -/
def Variable.render (v : Variable) : String := "?" ++ v.name

/-- Writes a blank node. -/
def BlankNode.render : BlankNode → String
  | .named label => "_:" ++ label
  | .fresh solution label => "_:" ++ label ++ "." ++ toString solution

/-- Writes a literal. -/
def Literal.render : Literal → String
  | .simple v => quoteText v
  | .tagged v l => quoteText v ++ "@" ++ l
  | .typed v d _ => quoteText v ++ "^^" ++ d.render

/-- Writes a term. -/
def Term.render : Term → String
  | .iri i => i.render
  | .blank b => b.render
  | .literal l => l.render

end RelGraph.Rdf
