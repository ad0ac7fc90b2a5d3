import RelGraph.Text.Property.Binary
import RelGraph.Text.Property.Script

/-!
# Properties by their description

A property is described by its name, as `Greek`, or by the name of a property with values and
one of its values, as `Script=Greek` or `Script:Greek`; with `!=` it is the opposite.  Names are
compared without regard to case, blanks, hyphens and underscores, and may start with `is`.
-/

namespace RelGraph.Text

/-- The lower case of a name, without blanks, hyphens, underscores and non-ASCII characters. -/
def plainName (cs : List Char) : List Char :=
  (cs.filter fun c => c ≠ ' ' && c ≠ '_' && c ≠ '-' && c.toNat < 0x80).map Char.toLower

/-- The form of a name in which names are compared.  A name in which only `c` is left after `is`
is a name of its own. -/
def comparedName (cs : List Char) : String :=
  match cs with
  | i :: s :: rest =>
    if i.toLower = 'i' && s.toLower = 's' then
      if plainName rest = ['c'] then "isc" else String.ofList (plainName rest)
    else String.ofList (plainName cs)
  | cs => String.ofList (plainName cs)

namespace CharSet

/-- The characters of the property, the general category or the script with a name.  Three short
names are those of general categories only. -/
def describedByName? (cs : List Char) : Option CharSet :=
  let name := comparedName cs
  let property := if name ∈ ["cf", "sc", "lc"] then none else property? name
  property <|> category? name <|> script? name

/-- The characters for which a property has a value. -/
def describedByValue? (property value : List Char) : Option CharSet :=
  let value := comparedName value
  match comparedName property with
  | "gc" | "generalcategory" => category? value
  | "sc" | "script" => script? value
  | "scx" | "scriptextensions" => scriptUse? value
  | _ => none

/-- The two sides of the first place where a text stands. -/
def sides? (sep : List Char) : List Char → Option (List Char × List Char)
  | [] => none
  | c :: cs =>
    if sep.isPrefixOf (c :: cs) then some ([], (c :: cs).drop sep.length)
    else (sides? sep cs).map fun p => (c :: p.1, p.2)

/-- The characters that a description stands for, and whether all others are meant. -/
def described? (cs : List Char) : Option (CharSet × Bool) :=
  match sides? ['!', '='] cs, sides? [':'] cs, sides? ['='] cs with
  | some (property, value), _, _ => (describedByValue? property value).map fun s => (s, true)
  | none, some (property, value), _ => (describedByValue? property value).map fun s => (s, false)
  | none, none, some (property, value) =>
    (describedByValue? property value).map fun s => (s, false)
  | none, none, none => (describedByName? cs).map fun s => (s, false)

end CharSet

end RelGraph.Text
