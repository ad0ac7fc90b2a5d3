import RelGraph.Rdf.Term
import RelGraph.Text.Property.Ranges

/-!
# Labels of blank nodes

The grammar of labels, and a way of writing any text as one: ASCII letters and digits stand
for themselves, every other byte of the text is an underscore and two hexadecimal digits.
-/

namespace RelGraph.Rdf

/-- The ranges of the characters with which a label may start. -/
def labelStartRanges : List (Nat × Nat) :=
  [(0xC0, 0xD6), (0xD8, 0xF6), (0xF8, 0x2FF), (0x370, 0x37D), (0x37F, 0x1FFF), (0x200C, 0x200D),
   (0x2070, 0x218F), (0x2C00, 0x2FEF), (0x3001, 0xD7FF), (0xF900, 0xFDCF), (0xFDF0, 0xFFFD),
   (0x10000, 0xEFFFF)]

/-- The ranges of the characters that a label may hold further on. -/
def labelRanges : List (Nat × Nat) :=
  [(0xB7, 0xB7), (0x300, 0x36F), (0x203F, 0x2040)]

/-- A character with which a label may start. -/
def isLabelStart (c : Char) : Bool :=
  c.isAlphanum || c = '_' || c = ':' || Text.inRanges labelStartRanges c

/-- A character that a label may hold further on. -/
def isLabelChar (c : Char) : Bool :=
  isLabelStart c || c = '-' || c = '.' || Text.inRanges labelRanges c

/-- The text is a label: it does not end with a dot. -/
def isBlankLabel : List Char → Bool
  | [] => false
  | c :: cs => isLabelStart c && cs.all isLabelChar && cs.getLast? ≠ some '.'

/-- The blank node with a label. -/
def BlankNode.parse? (label : String) : Option BlankNode :=
  if isBlankLabel label.toList then some (.named label) else none

/-! ### Any text as a label -/

/-- A byte in a label. -/
def escapeByte (b : UInt8) : List Char :=
  if Text.isAsciiAlphanum b then [Char.ofNat b.toNat] else '_' :: Text.hexByte b

/-- The label of a text. -/
def escapeLabel (text : String) : String :=
  String.ofList ((Text.bytes text).flatMap escapeByte)

/-- The bytes that a label stands for. -/
def unescapeBytes? : List UInt8 → Option (List UInt8)
  | [] => some []
  | b :: rest =>
    if b = 0x5F then
      match rest with
      | h :: l :: rest' =>
        match Text.hexValue? h, Text.hexValue? l with
        | some high, some low =>
          (unescapeBytes? rest').map (UInt8.ofNat (high * 16 + low) :: ·)
        | _, _ => none
      | _ => none
    else if Text.isAsciiAlphanum b then (unescapeBytes? rest).map (b :: ·)
    else none

/-- The text of which `label` is the label. -/
def unescapeLabel? (label : String) : Option String := do
  let bs ← unescapeBytes? (Text.bytes label)
  let text ← Text.ofBytes? bs
  if escapeLabel text = label then some text else none

end RelGraph.Rdf
