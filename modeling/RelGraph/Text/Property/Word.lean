import RelGraph.Text.Property.Binary

/-!
# Word characters

White space, decimal digits and word characters: the sets of characters that have a short name
in regular expressions.
-/

namespace RelGraph.Text

/-- The white space. -/
def CharSet.blank : CharSet :=
  ⟨[(0x9, 0xD), (0x20, 0x20), (0x85, 0x85), (0xA0, 0xA0), (0x1680, 0x1680), (0x2000, 0x200A),
    (0x2028, 0x2029), (0x202F, 0x202F), (0x205F, 0x205F), (0x3000, 0x3000)]⟩

/-- The decimal digits. -/
def CharSet.digit : CharSet :=
  .ofCategories ["nd"]

/-- The word characters: alphabetic characters, marks, decimal digits, connector punctuation and
joiners. -/
def CharSet.word : CharSet :=
  (((derivedProperty? "alpha").getD .empty).union
    (.ofCategories ["mn", "mc", "me", "nd", "pc"])).union (.range 0x200C 0x200D)

/-- The character is white space. -/
def isBlank (c : Char) : Bool :=
  CharSet.blank.contains c

/-- The character belongs to a word. -/
def isWordChar (c : Char) : Bool :=
  CharSet.word.contains c

end RelGraph.Text
