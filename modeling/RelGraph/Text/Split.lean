/-!
# Cutting texts at delimiters

A text is cut at every occurrence of a delimiter, from left to right; the delimiter itself
belongs to no piece, and a text without it is a single piece.
-/

namespace RelGraph.Text

/-- Puts a character in front of the first piece. -/
def consHead (c : Char) : List (List Char) → List (List Char)
  | [] => [[c]]
  | p :: ps => (c :: p) :: ps

/-- The pieces of a text between the occurrences of a character. -/
def split (sep : Char) : List Char → List (List Char)
  | [] => [[]]
  | c :: cs => if c = sep then [] :: split sep cs else consHead c (split sep cs)

/-- The pieces of a text between the occurrences of the mark `@@`. -/
def splitMarks : List Char → List (List Char)
  | [] => [[]]
  | '@' :: '@' :: cs => [] :: splitMarks cs
  | c :: cs => consHead c (splitMarks cs)

theorem splitMarks_ne_nil (cs : List Char) :
  splitMarks cs ≠ []
  := by
  fun_induction splitMarks cs with
  | case1 => simp
  | case2 => simp
  | case3 c cs _ ih => cases h : splitMarks cs <;> simp [consHead]

/-- The text before the first occurrence of a character and the text after it. -/
def splitFirst (sep : Char) : List Char → Option (List Char × List Char)
  | [] => none
  | c :: cs =>
    if c = sep then some ([], cs)
    else (splitFirst sep cs).map fun p => (c :: p.1, p.2)

/-- Replaces every occurrence of a character by another one. -/
def replace (old new : Char) (s : String) : String :=
  String.ofList (s.toList.map fun c => if c = old then new else c)

/-- Replaces the first occurrence of a character by another one. -/
def replaceFirst (old new : Char) : List Char → List Char
  | [] => []
  | c :: cs => if c = old then new :: cs else c :: replaceFirst old new cs

/-- The text starts with the given one; the rest of it. -/
def dropStart? : List Char → List Char → Option (List Char)
  | [], cs => some cs
  | p :: ps, c :: cs => if p = c then dropStart? ps cs else none
  | _ :: _, [] => none

/-- The given text occurs somewhere in the text. -/
def occursIn (part : List Char) : List Char → Bool
  | [] => part.isEmpty
  | c :: cs => (dropStart? part (c :: cs)).isSome || occursIn part cs

end RelGraph.Text
