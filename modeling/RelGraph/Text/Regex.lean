import RelGraph.Text.Regex.Interpretation
import RelGraph.Text.Regex.Marked
import RelGraph.Text.Regex.Parser
import RelGraph.Text.Regex.Size

/-!
# Regular expressions from their text

A regular expression is given by a pattern and a text of flags, each of which is a letter.
-/

namespace RelGraph.Text

/-- The flags that are given with a pattern. -/
structure PatternFlags where
  /-- A dot also matches the end of a line. -/
  dotAll : Bool
  /-- A caret and a dollar also match at the start and the end of lines. -/
  lines : Bool
  /-- The variants of a letter count as the same. -/
  caseless : Bool
  /-- Blanks and comments in the pattern are left out. -/
  spaced : Bool
  /-- The pattern is a plain text. -/
  verbatim : Bool

namespace PatternFlags

/-- No flag is set. -/
def none : PatternFlags := ⟨false, false, false, false, false⟩

/-- Reads flags, each of which is a letter. -/
def parse? : List Char → PatternFlags → Option PatternFlags
  | [], f => some f
  | 's' :: cs, f => parse? cs { f with dotAll := true }
  | 'm' :: cs, f => parse? cs { f with lines := true }
  | 'i' :: cs, f => parse? cs { f with caseless := true }
  | 'x' :: cs, f => parse? cs { f with spaced := true }
  | 'q' :: cs, f => parse? cs { f with verbatim := true }
  | _ :: _, _ => Option.none

/-- The flags in force at the start of the pattern. -/
def options (f : PatternFlags) : Options where
  caseless := f.caseless
  lines := f.lines
  dotAll := f.dotAll
  swapGreed := false
  unicode := true
  crlf := false

end PatternFlags

/-- Reads an expression from its pattern and its flags. -/
def Regex.parse? (pattern flags : String) : Option Regex := do
  let f ← PatternFlags.parse? flags.toList .none
  let cs := if f.verbatim then escape pattern.toList else pattern.toList
  let p ← Pattern.parse? f.spaced cs
  let r ← p.regex? f.options
  if r.fits then some r else none

end RelGraph.Text
