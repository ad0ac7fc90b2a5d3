import RelGraph.Order.Spelled
import RelGraph.Text.Percent
import RelGraph.Text.Split

/-!
# Encodings of values in templates

A value that stands in a template is written as it is or percent encoded.  Two of the
encodings are meant for forms, and write a space as a single character.  Each encoding can be
undone: `decode?` accepts exactly the texts that `encode` gives.
-/

namespace RelGraph.Mapping

/-- How a value is written in a template. -/
inductive Encoding where
  /-- As it is. -/
  | plain
  /-- As in forms: a space is a plus sign. -/
  | urlencode
  /-- As in forms, but a space is an underscore. -/
  | urlify
  /-- Percent encoding of all that is reserved in IRIs. -/
  | percent
  deriving DecidableEq

instance : Spelled Encoding where
  words
    | .plain => ["0"]
    | .urlencode => ["1"]
    | .urlify => ["2"]
    | .percent => ["3"]
  words_append_inj {a b r s} h := by
    cases a <;> cases b <;> simp at h ⊢ <;> exact h

namespace Encoding

/-- The character that stands for a space. -/
def spaceMark? : Encoding → Option Char
  | .urlencode => some '+'
  | .urlify => some '_'
  | _ => none

/-- The marks that stand for themselves beside letters and digits. -/
def keptMarks : Encoding → List Char
  | .plain => []
  | .urlencode => ['*', '-', '.', '_']
  | .urlify => ['*', '-', '.']
  | .percent => ['-', '.', '_', '~']

/-- A byte that stands for itself. -/
def keeps (f : Encoding) (b : UInt8) : Bool :=
  Text.isAsciiAlphanum b || f.keptMarks.any fun c => c.toNat = b.toNat

/-- The writing of a byte. -/
def encodeByte (f : Encoding) (b : UInt8) : List Char :=
  if f.keeps b then [Char.ofNat b.toNat]
  else
    match f.spaceMark? with
    | some mark => if b = 0x20 then [mark] else '%' :: Text.hexByte b
    | none => '%' :: Text.hexByte b

/-- The writing of a value. -/
def encode (f : Encoding) (value : String) : String :=
  match f with
  | .plain => value
  | f => String.ofList ((Text.bytes value).flatMap f.encodeByte)

/-- The value that is written so, whether or not this is the way `encode` writes it. -/
def decodeAny? (f : Encoding) (text : String) : Option String :=
  let spaced :=
    match f.spaceMark? with
    | some mark => Text.replace mark ' ' text
    | none => text
  Text.ofBytes? (Text.percentDecode (Text.bytes spaced))

/-- The value of which `text` is the writing. -/
def decode? (f : Encoding) (text : String) : Option String :=
  match f with
  | .plain => some text
  | f => (f.decodeAny? text).filter fun value => f.encode value = text

/-- The name of an encoding; the plain one has none. -/
def name? : Encoding → Option String
  | .plain => none
  | .urlencode => some "urlencode"
  | .urlify => some "urlify"
  | .percent => some "encode"

/-- The encoding with a name. -/
def ofName? (name : String) : Option Encoding :=
  if name = "urlencode" then some .urlencode
  else if name = "urlify" then some .urlify
  else if name = "encode" then some .percent
  else none

end Encoding

end RelGraph.Mapping
