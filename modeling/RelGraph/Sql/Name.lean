import RelGraph.Order.Spelled
import RelGraph.Text.Property.Alphabetic
import RelGraph.Text.Property.Number
import RelGraph.Text.Split

/-!
# Names of tables and columns

A table may stand in a schema, a column stands in a table.  Names are read from and written
with dots between their parts, and each part is an identifier.  Tables are ordered by schema,
the ones without a schema first, then by name; columns by table, then by name.
-/

namespace RelGraph.Sql

/-- A table, in a schema or not. -/
structure Table where
  schema : Option String
  name : String
  deriving DecidableEq

/-- A column of a table. -/
structure Column where
  table : Table
  name : String
  deriving DecidableEq

instance : Spelled Table :=
  Spelled.ofInjective (fun t => (t.schema, t.name)) fun {a b} h => by
    cases a; cases b; simpa using h

instance : Spelled Column :=
  Spelled.ofInjective (fun c => (c.table, c.name)) fun {a b} h => by
    cases a; cases b; simpa using h

/-- A text that is no name. -/
inductive NameError where
  | table (text : String)
  | column (text : String)

/-- What is wrong with the text. -/
def NameError.message : NameError → String
  | .table text => text ++ " is not a valid table name, expected table or schema.table"
  | .column text =>
    text ++ " is not a valid column name, expected table.column or schema.table.column"

/-! ### Identifiers -/

/-- The characters of identifiers. -/
def isIdentifierChar (c : Char) : Bool :=
  Text.isAlphabetic c || Text.isNumeric c || c == '_' || c == '$' || c == '-' || c == ' '

/-- An identifier has at least one character. -/
def isIdentifier (cs : List Char) : Bool :=
  !cs.isEmpty && cs.all isIdentifierChar

/-! ### Reading and writing -/

/-- Reads a table from the dot-free parts of its name. -/
def Table.ofParts? : List (List Char) → Option Table
  | [t] => if isIdentifier t then some ⟨none, String.ofList t⟩ else none
  | [s, t] =>
    if isIdentifier s && isIdentifier t then some ⟨some (String.ofList s), String.ofList t⟩
    else none
  | _ => none

/-- Reads a table written as `table` or `schema.table`. -/
def Table.parse (text : String) : Except NameError Table :=
  match Table.ofParts? (Text.split '.' text.toList) with
  | some t => .ok t
  | none => .error (.table text)

/-- Writes a table. -/
def Table.render (t : Table) : String :=
  match t.schema with
  | some s => s ++ "." ++ t.name
  | none => t.name

/-- Reads a column from the dot-free parts of its name: the last one names it. -/
def Column.ofParts? (parts : List (List Char)) : Option Column :=
  match parts.getLast? with
  | some c =>
    if isIdentifier c then
      (Table.ofParts? parts.dropLast).map fun t => ⟨t, String.ofList c⟩
    else none
  | none => none

/-- Reads a column written as `table.column` or `schema.table.column`. -/
def Column.parse (text : String) : Except NameError Column :=
  match Column.ofParts? (Text.split '.' text.toList) with
  | some c => .ok c
  | none => .error (.column text)

/-- Writes a column. -/
def Column.render (c : Column) : String :=
  c.table.render ++ "." ++ c.name

/-! ### Numbered copies -/

/-- The name of the `n`-th copy of a table.  It has no schema of its own: the one of the
table becomes a part of the name. -/
def Table.copy (t : Table) (n : Nat) : Table where
  schema := none
  name :=
    match t.schema with
    | some s => "T" ++ toString n ++ "_" ++ s ++ "_" ++ t.name
    | none => "T" ++ toString n ++ "_" ++ t.name

end RelGraph.Sql
