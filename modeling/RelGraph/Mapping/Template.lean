import RelGraph.Mapping.Encoding
import RelGraph.Sql.Expr
import RelGraph.Sql.Row

/-!
# Templates

A template is a text with places for the values of columns.  A place is written between two
marks `@@`, with the name of the column and, after a bar, the encoding of its value.  On a row
the template gives a text, and on a text it gives the condition under which a row gives that
text.
-/

namespace RelGraph.Mapping

open Sql

/-- A place for the value of a column, and the text that follows it. -/
structure Slot where
  column : Column
  encoding : Encoding
  text : String
  deriving DecidableEq

/-- A text with places for the values of columns. -/
structure Template where
  /-- The text in front of the first place. -/
  head : String
  slots : List Slot
  deriving DecidableEq

/-- Why a text is no template. -/
inductive TemplateError where
  | unbalanced (template : String)
  | unknownEncoding (name : String)
  | column (e : NameError)

/-- What is wrong with the text. -/
def TemplateError.message : TemplateError → String
  | .unbalanced template =>
    "Invalid template " ++ template ++ ": the @@ delimiters are not balanced"
  | .unknownEncoding name =>
    "Unknown column function " ++ name ++ ", expected urlencode, urlify or encode"
  | .column e => e.message

/-- The encoding with a name. -/
def Encoding.parse (name : String) : Except TemplateError Encoding :=
  match ofName? name with
  | some f => .ok f
  | none => .error (.unknownEncoding name)

namespace Template

/-! ### Order -/

/-- The texts of a template, of which there is one more than there are places. -/
def texts (t : Template) : List String :=
  t.head :: t.slots.map Slot.text

/-- The columns at the places, with the encodings of their values. -/
def places (t : Template) : List (Column × Encoding) :=
  t.slots.map fun s => (s.column, s.encoding)

theorem slots_ext {as bs : List Slot} (ht : as.map Slot.text = bs.map Slot.text)
    (hp : as.map (fun s => (s.column, s.encoding)) = bs.map fun s => (s.column, s.encoding)) :
  as = bs
  := by
  induction as generalizing bs with
  | nil => cases bs <;> simp_all
  | cons a as ih =>
    cases bs with
    | nil => simp at ht
    | cons b bs =>
      simp only [List.map_cons, List.cons.injEq, Prod.mk.injEq] at ht hp
      cases a; cases b
      simp_all [ih ht.2 hp.2]

/-- Templates are ordered by their texts, then by their places. -/
instance : Spelled Template :=
  Spelled.ofInjective (fun t => (t.texts, t.places)) fun {a b} h => by
    cases a; cases b
    simp only [texts, places, Prod.mk.injEq, List.cons.injEq] at h
    simp [h.1.1, slots_ext h.1.2 h.2]

/-! ### Reading and writing -/

/-- Reads what stands between two marks: a column, and the name of an encoding after a bar. -/
def parsePlace (place : List Char) : Except TemplateError (Column × Encoding) := do
  let (name, encoding) ←
    match Text.splitFirst '|' place with
    | some (name, encoding) => do
      let f ← Encoding.parse (String.ofList encoding)
      pure (name, f)
    | none => pure (place, Encoding.plain)
  match Column.parse (String.ofList name) with
  | .ok c => return (c, encoding)
  | .error e => throw (.column e)

/-- Reads the pieces after the first mark: places and texts in turn. -/
def parseSlots (template : String) : List (List Char) → Except TemplateError (List Slot)
  | [] => .ok []
  | [_] => .error (.unbalanced template)
  | place :: text :: rest => do
    let (column, encoding) ← parsePlace place
    let slots ← parseSlots template rest
    return ⟨column, encoding, String.ofList text⟩ :: slots

/-- Reads a template. -/
def parse (template : String) : Except TemplateError Template :=
  match Text.splitMarks template.toList with
  | [] => .ok ⟨"", []⟩
  | head :: rest => do
    let slots ← parseSlots template rest
    return ⟨String.ofList head, slots⟩

/-- Writes a place and the text that follows it. -/
def renderSlot (s : Slot) : String :=
  let encoding :=
    match s.encoding.name? with
    | some name => "|" ++ name
    | none => ""
  "@@" ++ s.column.render ++ encoding ++ "@@" ++ s.text

/-- Writes a template. -/
def render (t : Template) : String :=
  t.head ++ String.join (t.slots.map renderSlot)

/-! ### Values -/

/-- The columns of a template, in the order of their places. -/
def columns (t : Template) : List Column :=
  t.slots.map Slot.column

/-- The text of the places and what follows them on a row, unless a value is missing. -/
def fillSlots (row : Row) : List Slot → Option String
  | [] => some ""
  | s :: rest => do
    let value ← row.get? s.column
    let tail ← fillSlots row rest
    return s.encoding.encode value ++ s.text ++ tail

/-- The text of a template on a row, unless a value is missing. -/
def fill? (t : Template) (row : Row) : Option String :=
  (fillSlots row t.slots).map (t.head ++ ·)

/-- Cuts a text at the first occurrence of another one. -/
def cutAt (mark : List Char) : List Char → Option (List Char × List Char)
  | [] => (Text.dropStart? mark []).map fun rest => ([], rest)
  | c :: cs =>
    match Text.dropStart? mark (c :: cs) with
    | some rest => some ([], rest)
    | none => (cutAt mark cs).map fun p => (c :: p.1, p.2)

/-- The text in front of another one at the end. -/
def dropEnd? (mark cs : List Char) : Option (List Char) :=
  if mark.isSuffixOf cs then some (cs.take (cs.length - mark.length)) else none

/-- Cuts a text along the texts of a template, each of which follows a value that is as short
as possible. -/
def cut? : List Slot → List Char → Option (List (List Char))
  | [], cs => if cs.isEmpty then some [] else none
  | [s], cs => (dropEnd? s.text.toList cs).map fun value => [value]
  | s :: s' :: rest, cs => do
    let (value, cs') ← cutAt s.text.toList cs
    let values ← cut? (s' :: rest) cs'
    return value :: values

/-- The condition under which a place is filled with a text. -/
def slotCondition (s : Slot) (text : List Char) : Expr :=
  match s.encoding.decode? (String.ofList text) with
  | some value => Expr.columnIs s.column value
  | none => .never

/-- The condition under which a template gives a text. -/
def conditionFor (t : Template) (text : String) : Expr :=
  match Text.dropStart? t.head.toList text.toList with
  | none => .never
  | some cs =>
    match cut? t.slots cs with
    | none => .never
    | some values => Expr.andAll (t.slots.zipWith slotCondition values)

/-! ### Comparison -/

/-- The templates have the same texts and encodings: only their columns may differ. -/
def sameShape (t u : Template) : Bool :=
  t.texts = u.texts && t.slots.map Slot.encoding = u.slots.map Slot.encoding

/-- The equality of the columns at the same places. -/
def columnsEqual (t u : Template) : Expr :=
  Expr.andAll (t.columns.zipWith Expr.columnsEqual u.columns)

/-- Renames the columns. -/
def rename (f : Column → Column) (t : Template) : Template :=
  { t with slots := t.slots.map fun s => { s with column := f s.column } }

end Template

end RelGraph.Mapping
