import RelGraph.Rdf.BlankLabel
import RelGraph.Rdf.Iri
import RelGraph.Rdf.LanguageTag
import RelGraph.Text.Split
import RelGraph.Xsd.Binary
import RelGraph.Xsd.DateTime

/-!
# Kinds of terms

A kind says which term a text from the database stands for: an IRI, a blank node, or a literal
of a datatype or a language.  A text that is not valid for its kind stands for no term.  Truth
values are also written `0` and `1` in a database, and points in time with a space in place of
the `T`, so that these terms stand for several texts.
-/

namespace RelGraph.Mapping

open Rdf

/-- A kind of terms. -/
inductive TermKind where
  | iri
  | blank
  | literal (datatype : Iri) (language : Option String)
  deriving DecidableEq

instance : Spelled TermKind where
  words
    | .iri => ["0"]
    | .blank => ["1"]
    | .literal d l => "2" :: Spelled.words (d, l)
  words_append_inj {a b r s} h := by
    cases a <;> cases b <;> simp at h ⊢
    · exact h
    · exact h
    · simpa using Spelled.words_append_inj h

/-- The lexical form of a literal that a text stands for. -/
def lexicalForm? (datatype : Iri) (text : String) : Option String :=
  if datatype = Datatype.boolean then
    if text = "true" || text = "1" then some "true"
    else if text = "false" || text = "0" then some "false"
    else none
  else if datatype = Datatype.dateTime then
    let form := String.ofList (Text.replaceFirst ' ' 'T' text.toList)
    if (Xsd.DateTime.parse? form).isSome then some form else none
  else if datatype = Datatype.date then
    if Xsd.DateTime.isDate text then some text else none
  else if datatype = Datatype.integer then
    if (Xsd.parseInteger? text).isSome then some text else none
  else if datatype = Datatype.decimal then
    if (Xsd.Decimal.parse? text).isSome then some text else none
  else if datatype = Datatype.double then
    if (Xsd.parseDouble? text).isSome then some text else none
  else some text

namespace TermKind

/-- The literals of strings without a language. -/
def string : TermKind := .literal Datatype.string none

/-- The literals of a language. -/
def ofLanguage (language : String) : TermKind :=
  .literal Datatype.langString (some (Text.asciiLower language))

/-- The term that a text stands for. -/
def make? (k : TermKind) (text : String) : Option Term :=
  match k with
  | .iri => (Iri.parse? text).map .iri
  | .blank => (BlankNode.parse? (escapeLabel text)).map .blank
  | .literal datatype (some language) =>
    if datatype = Datatype.langString then
      (languageTag? language).map fun tag => .literal (.tagged text tag)
    else none
  | .literal datatype none =>
    (lexicalForm? datatype text).map fun form => .literal (.ofDatatype form datatype)

/-- A term can be of the kind. -/
def accepts (k : TermKind) (t : Term) : Bool :=
  match k, t with
  | .iri, .iri _ => true
  | .blank, .blank _ => true
  | .literal datatype language, .literal l => l.datatype = datatype && l.language? = language
  | _, _ => false

/-- The texts that may stand for a term. -/
def candidates (k : TermKind) (t : Term) : List String :=
  if !k.accepts t then []
  else
    match t with
    | .iri i => [i.text]
    | .blank (.named label) => (unescapeLabel? label).toList
    | .blank (.fresh _ _) => []
    | .literal l =>
      if l.datatype = Datatype.boolean then
        if l.value = "true" then ["1", "true"]
        else if l.value = "false" then ["0", "false"]
        else []
      else if l.datatype = Datatype.dateTime then
        [String.ofList (Text.replaceFirst 'T' ' ' l.value.toList), l.value]
      else [l.value]

/-- The texts that stand for a term. -/
def textsOf (k : TermKind) (t : Term) : List String :=
  (k.candidates t).filter fun text => k.make? text = some t

/-- Different texts stand for different terms. -/
def isInjective : TermKind → Bool
  | .literal datatype _ => datatype ≠ Datatype.boolean && datatype ≠ Datatype.dateTime
  | _ => true

/-- All the terms of the kind, if there are only finitely many. -/
def allTerms? : TermKind → Option (List Term)
  | .literal datatype none =>
    if datatype = Datatype.boolean then
      some [.literal (.ofBool true), .literal (.ofBool false)]
    else none
  | _ => none

/-- The terms are strings, with a language or without. -/
def isStringLiteral : TermKind → Bool
  | .literal datatype _ => datatype = Datatype.string || datatype = Datatype.langString
  | _ => false

/-- The terms are literals. -/
def isLiteral : TermKind → Bool
  | .literal _ _ => true
  | _ => false

end TermKind

end RelGraph.Mapping
