import RelGraph.Text.Property.Alphabetic
import RelGraph.Text.Property.Number
import RelGraph.Text.Property.Word
import RelGraph.Text.Regex.Pattern
import RelGraph.Text.Regex.Property

/-!
# Reading patterns

The grammar of patterns.  There are no references to groups and no assertions about the text
before and after.  Only one flag has a bearing on the reading: where blanks and comments are
left out, they may stand between any two signs.  A pattern whose parts are nested too deep, or
two of whose groups have one name, is refused.
-/

namespace RelGraph.Text

/-- The characters with a meaning of their own. -/
def metaChars : List Char :=
  ['\\', '.', '+', '*', '?', '(', ')', '|', '[', ']', '\x7b', '\x7d', '^', '$', '#', '&', '-', '~']

/-- Puts a backslash in front of the characters with a meaning of their own. -/
def escape (cs : List Char) : List Char :=
  cs.flatMap fun c => if c ∈ metaChars then ['\\', c] else [c]

namespace Pattern

/-! ### Blanks and numbers -/

/-- Leaves out blanks and comments; a comment goes from a number sign to the end of its line. -/
def skipBlanks (inComment : Bool) : List Char → List Char
  | [] => []
  | c :: cs =>
    if inComment then skipBlanks (c != '\n') cs
    else if c = '#' then skipBlanks true cs
    else if isBlank c then skipBlanks false cs
    else c :: cs

/-- Leaves out blanks and comments where they have no meaning. -/
def skipSpace (spaced : Bool) (cs : List Char) : List Char :=
  if spaced then skipBlanks false cs else cs

/-- The next sign after a hyphen.  A number sign before it is passed over with the blanks, but
the comment is not. -/
def afterHyphen? (spaced : Bool) (cs : List Char) : Option Char :=
  if spaced then
    match cs.dropWhile isBlank with
    | '#' :: rest => (rest.dropWhile isBlank).head?
    | rest => rest.head?
  else cs.head?

/-- Reads decimal digits. -/
def digitsFrom (spaced : Bool) : Nat → Nat → List Char → Nat × List Char
  | 0, n, cs => (n, cs)
  | _ + 1, n, [] => (n, [])
  | fuel + 1, n, c :: cs =>
    if c.isDigit then digitsFrom spaced fuel (n * 10 + (c.toNat - 48)) (skipSpace spaced cs)
    else (n, c :: cs)

/-- The greatest number of repetitions. -/
def maxCount : Nat := 4294967295

/-- Reads a number, with or without blanks around it. -/
def number? (spaced : Bool) (cs : List Char) : Option (Nat × List Char) :=
  match cs.dropWhile isBlank with
  | [] => none
  | c :: cs =>
    if c.isDigit then
      let (n, rest) := digitsFrom spaced (cs.length + 1) 0 (c :: cs)
      if n ≤ maxCount then some (n, rest.dropWhile isBlank) else none
    else none

/-- Reads the bounds of a repetition up to the closing brace. -/
def bounds? (spaced : Bool) (cs : List Char) : Option ((Nat × Option Nat) × List Char) := do
  let (least, cs) ← number? spaced (skipSpace spaced cs)
  match cs with
  | '\x7d' :: rest => some ((least, some least), rest)
  | ',' :: rest =>
    match skipSpace spaced rest with
    | '\x7d' :: rest => some ((least, none), rest)
    | cs => do
      let (most, cs) ← number? spaced cs
      match cs with
      | '\x7d' :: rest => if least ≤ most then some ((least, some most), rest) else none
      | _ => none
  | _ => none

/-! ### Escapes -/

/-- The value of a hexadecimal digit. -/
def hexValue? (c : Char) : Option Nat :=
  if c.isDigit then some (c.toNat - 48)
  else if 'a' ≤ c && c ≤ 'f' then some (c.toNat - 87)
  else if 'A' ≤ c && c ≤ 'F' then some (c.toNat - 55)
  else none

/-- The character with a code point. -/
def charOf? (n : Nat) : Option Char :=
  if n.isValidChar then some (Char.ofNat n) else none

/-- Reads a fixed number of hexadecimal digits. -/
def hexDigits? (spaced : Bool) : Nat → Nat → List Char → Option (Nat × List Char)
  | 0, n, cs => some (n, cs)
  | k + 1, n, cs =>
    match skipSpace spaced cs with
    | [] => none
    | c :: rest => do hexDigits? spaced k (n * 16 + (← hexValue? c)) rest

/-- Reads hexadecimal digits up to the closing brace. -/
def hexUpToBrace? (spaced : Bool) : Nat → Option Nat → List Char → Option (Nat × List Char)
  | 0, _, _ => none
  | fuel + 1, n, cs =>
    match skipSpace spaced cs with
    | [] => none
    | '\x7d' :: rest => n.map fun n => (n, rest)
    | c :: rest => do hexUpToBrace? spaced fuel (some (n.getD 0 * 16 + (← hexValue? c))) rest

/-- Reads the code point of a character after the letter that announces it; whether it is
written with two digits is told too. -/
def hexChar? (spaced : Bool) (digits : Nat) (cs : List Char) :
    Option ((Char × Bool) × List Char) :=
  match skipSpace spaced cs with
  | '\x7b' :: rest => do
    let (n, rest) ← hexUpToBrace? spaced (rest.length + 1) none rest
    return ((← charOf? n, false), rest)
  | cs => do
    let (n, rest) ← hexDigits? spaced digits 0 cs
    return ((← charOf? n, digits = 2), rest)

/-- Reads letters and hyphens. -/
def wordFrom (spaced : Bool) : Nat → List Char → List Char × List Char
  | 0, cs => ([], cs)
  | _ + 1, [] => ([], [])
  | fuel + 1, c :: cs =>
    if c.isAlpha || c = '-' then
      let (word, rest) := wordFrom spaced fuel (skipSpace spaced cs)
      (c :: word, rest)
    else ([], c :: cs)

/-- The word edge with a name. -/
def wordEdge? (name : String) : Option WordEdge :=
  match name with
  | "start" => some .start
  | "end" => some .finish
  | "start-half" => some .startHalf
  | "end-half" => some .finishHalf
  | _ => none

/-- Reads what may follow the letter of a word boundary: the name of an edge in braces.  Other
braces are left, they are those of a repetition. -/
def boundary? (spaced : Bool) (cs : List Char) : Option (WordEdge × List Char) :=
  match cs with
  | '\x7b' :: inner =>
    match skipSpace spaced inner with
    | [] => none
    | c :: rest =>
      if c.isAlpha || c = '-' then
        match wordFrom spaced (rest.length + 1) (c :: rest) with
        | (word, '\x7d' :: rest) => (wordEdge? (String.ofList word)).map fun e => (e, rest)
        | _ => none
      else some (.boundary, cs)
  | cs => some (.boundary, cs)

/-- Reads characters up to the closing brace. -/
def upToBrace? (spaced : Bool) : Nat → List Char → Option (List Char × List Char)
  | 0, _ => none
  | fuel + 1, cs =>
    match skipSpace spaced cs with
    | [] => none
    | '\x7d' :: rest => some ([], rest)
    | c :: rest => (upToBrace? spaced fuel rest).map fun p => (c :: p.1, p.2)

/-- Reads a property after the letter that announces it: one letter, or a description in
braces. -/
def property? (spaced negated : Bool) (cs : List Char) : Option (ClassPattern × List Char) :=
  match skipSpace spaced cs with
  | [] => none
  | '\x7b' :: rest => do
    let (description, rest) ← upToBrace? spaced (rest.length + 1) rest
    let (s, inverted) ← CharSet.described? description
    return (.property s (negated != inverted), rest)
  | c :: rest => do return (.property (← CharSet.describedByName? [c]) negated, rest)

/-- What an escape stands for. -/
inductive Escape where
  | char (c : Char) (asByte : Bool)
  | ofClass (k : ClassPattern)
  | mark (m : PositionMark)

/-- The character that a letter after a backslash stands for, or a sign itself. -/
def escapedChar? (c : Char) : Option Char :=
  match c with
  | 'a' => some '\x07'
  | 'f' => some '\x0c'
  | 't' => some '\t'
  | 'n' => some '\n'
  | 'r' => some '\r'
  | 'v' => some '\x0b'
  | c => if c.toNat < 0x80 && !c.isAlphanum && c ≠ '<' && c ≠ '>' then some c else none

/-- Reads an escape after its backslash. -/
def escape? (spaced : Bool) : List Char → Option (Escape × List Char)
  | [] => none
  | 'd' :: rest => some (.ofClass (.kind .digit false), rest)
  | 'D' :: rest => some (.ofClass (.kind .digit true), rest)
  | 's' :: rest => some (.ofClass (.kind .blank false), rest)
  | 'S' :: rest => some (.ofClass (.kind .blank true), rest)
  | 'w' :: rest => some (.ofClass (.kind .word false), rest)
  | 'W' :: rest => some (.ofClass (.kind .word true), rest)
  | 'p' :: rest => (property? spaced false rest).map fun p => (.ofClass p.1, p.2)
  | 'P' :: rest => (property? spaced true rest).map fun p => (.ofClass p.1, p.2)
  | 'x' :: rest => (hexChar? spaced 2 rest).map fun p => (.char p.1.1 p.1.2, p.2)
  | 'u' :: rest => (hexChar? spaced 4 rest).map fun p => (.char p.1.1 p.1.2, p.2)
  | 'U' :: rest => (hexChar? spaced 8 rest).map fun p => (.char p.1.1 p.1.2, p.2)
  | 'A' :: rest => some (.mark .textStart, rest)
  | 'z' :: rest => some (.mark .textEnd, rest)
  | 'b' :: rest => (boundary? spaced rest).map fun p => (.mark (.word p.1), p.2)
  | 'B' :: rest => some (.mark (.word .noBoundary), rest)
  | '<' :: rest => some (.mark (.word .start), rest)
  | '>' :: rest => some (.mark (.word .finish), rest)
  | c :: rest => (escapedChar? c).map fun c => (.char c false, rest)

/-! ### Classes -/

/-- The ASCII class with a name. -/
def asciiClass? (name : String) : Option CharSet :=
  match name with
  | "alnum" => some ⟨[(0x30, 0x39), (0x41, 0x5A), (0x61, 0x7A)]⟩
  | "alpha" => some ⟨[(0x41, 0x5A), (0x61, 0x7A)]⟩
  | "ascii" => some ⟨[(0x00, 0x7F)]⟩
  | "blank" => some ⟨[(0x09, 0x09), (0x20, 0x20)]⟩
  | "cntrl" => some ⟨[(0x00, 0x1F), (0x7F, 0x7F)]⟩
  | "digit" => some ⟨[(0x30, 0x39)]⟩
  | "graph" => some ⟨[(0x21, 0x7E)]⟩
  | "lower" => some ⟨[(0x61, 0x7A)]⟩
  | "print" => some ⟨[(0x20, 0x7E)]⟩
  | "punct" => some ⟨[(0x21, 0x2F), (0x3A, 0x40), (0x5B, 0x60), (0x7B, 0x7E)]⟩
  | "space" => some ⟨[(0x09, 0x0D), (0x20, 0x20)]⟩
  | "upper" => some ⟨[(0x41, 0x5A)]⟩
  | "word" => some ⟨[(0x30, 0x39), (0x41, 0x5A), (0x5F, 0x5F), (0x61, 0x7A)]⟩
  | "xdigit" => some ⟨[(0x30, 0x39), (0x41, 0x46), (0x61, 0x66)]⟩
  | _ => none

/-- Reads the name of an ASCII class after an opening bracket and a colon. -/
def asciiName? (negated : Bool) (cs : List Char) : Option (ClassPattern × List Char) :=
  match cs.dropWhile (· ≠ ':') with
  | ':' :: ']' :: rest =>
    (asciiClass? (String.ofList (cs.takeWhile (· ≠ ':')))).map fun s => (.named s negated, rest)
  | _ => none

/-- Reads an ASCII class after its opening bracket. -/
def ascii? : List Char → Option (ClassPattern × List Char)
  | ':' :: '^' :: rest => asciiName? true rest
  | ':' :: rest => asciiName? false rest
  | _ => none

/-- A single item of a class. -/
def classAtom? (spaced : Bool) : List Char → Option (Escape × List Char)
  | [] => none
  | '\\' :: rest => escape? spaced rest
  | c :: rest => some (.char c false, rest)

/-- An item of a class by itself; a position is none. -/
def Escape.classItem? : Escape → Option ClassPattern
  | .char c _ => some (.char c)
  | .ofClass k => some k
  | .mark _ => none

/-- Reads an item of a class or a range of two.  A hyphen before the closing bracket or before
another hyphen does not make a range. -/
def classRange? (spaced : Bool) (cs : List Char) : Option (ClassPattern × List Char) := do
  let (first, rest) ← classAtom? spaced cs
  match skipSpace spaced rest with
  | [] => none
  | '-' :: after =>
    if afterHyphen? spaced after ∈ [some ']', some '-'] then
      (first.classItem?).map fun k => (k, '-' :: after)
    else do
      let (last, rest) ← classAtom? spaced (skipSpace spaced after)
      match first, last with
      | .char a _, .char b _ => if a ≤ b then some (.range a b, rest) else none
      | _, _ => none
  | rest => (first.classItem?).map fun k => (k, rest)

/-- Reads the hyphens at the start of a class, which stand for themselves. -/
def leadingHyphens (spaced : Bool) : Nat → List Char → List ClassPattern × List Char
  | fuel + 1, '-' :: rest =>
    let (hyphens, rest) := leadingHyphens spaced fuel (skipSpace spaced rest)
    (.char '-' :: hyphens, rest)
  | _, cs => ([], cs)

/-- Reads the start of a class after its opening bracket: a negation, and the hyphens or the
closing bracket that stand for themselves. -/
def classStart (spaced : Bool) (cs : List Char) : Bool × List ClassPattern × List Char :=
  let (negated, cs) :=
    match skipSpace spaced cs with
    | '^' :: rest => (true, skipSpace spaced rest)
    | cs => (false, cs)
  match leadingHyphens spaced cs.length cs with
  | ([], ']' :: rest) => (negated, [.char ']'], rest)
  | (hyphens, rest) => (negated, hyphens, rest)

/-- Joins what stands before a binary operation with the items after it, the last one first. -/
def joinClass (before : Option (ClassOp × ClassPattern)) (items : List ClassPattern) :
    ClassPattern :=
  match before with
  | some (o, k) => .op o k (.ofItems items.reverse)
  | none => .ofItems items.reverse

/-- Reads a class up to its closing bracket.  `before` is what stands before the last binary
operation, and `items` are the items since then, the last one first.  The operations have one
rank and are read from the left. -/
def classRest? (spaced : Bool) : Nat → Option (ClassOp × ClassPattern) → List ClassPattern
    → List Char → Option (ClassPattern × List Char)
  | 0, _, _, _ => none
  | fuel + 1, before, items, cs =>
    match skipSpace spaced cs with
    | [] => none
    | ']' :: rest => some (joinClass before items, rest)
    | '&' :: '&' :: rest =>
      classRest? spaced fuel (some (.inter, joinClass before items)) [] rest
    | '-' :: '-' :: rest =>
      classRest? spaced fuel (some (.diff, joinClass before items)) [] rest
    | '~' :: '~' :: rest =>
      classRest? spaced fuel (some (.symmDiff, joinClass before items)) [] rest
    | '[' :: rest =>
      match ascii? rest with
      | some (k, rest) => classRest? spaced fuel before (k :: items) rest
      | none => do
        let (negated, start, rest) := classStart spaced rest
        let (k, rest) ← classRest? spaced fuel none start.reverse rest
        classRest? spaced fuel before (.bracketed negated k :: items) rest
    | cs => do
      let (k, rest) ← classRange? spaced cs
      classRest? spaced fuel before (k :: items) rest

/-- Reads a class after its opening bracket. -/
def class? (spaced : Bool) (cs : List Char) : Option (ClassPattern × List Char) := do
  let (negated, start, rest) := classStart spaced cs
  let (k, rest) ← classRest? spaced (cs.length + 1) none start.reverse rest
  return (.bracketed negated k, rest)

/-! ### Groups -/

/-- The flag with a letter. -/
def flagOf? : Char → Option Flag
  | 'i' => some .caseless
  | 'm' => some .lines
  | 's' => some .dotAll
  | 'U' => some .swapGreed
  | 'u' => some .unicode
  | 'R' => some .crlf
  | 'x' => some .spaced
  | _ => none

/-- Reads the flags that are cleared; there is at least one.  Gives the sign at their end too. -/
def clearedFlags? (set cleared : List Flag) : List Char → Option (FlagChange × Char × List Char)
  | [] => none
  | c :: rest =>
    if c = ':' || c = ')' then
      if cleared.isEmpty then none else some (⟨set, cleared⟩, c, rest)
    else do
      let f ← flagOf? c
      if f ∈ set || f ∈ cleared then none else clearedFlags? set (f :: cleared) rest

/-- Reads the flags that are set, and those that are cleared after a hyphen; no flag comes
twice.  Gives the sign at their end too. -/
def flags? (set : List Flag) : List Char → Option (FlagChange × Char × List Char)
  | [] => none
  | c :: rest =>
    if c = ':' || c = ')' then some (⟨set, []⟩, c, rest)
    else if c = '-' then clearedFlags? set [] rest
    else do
      let f ← flagOf? c
      if f ∈ set then none else flags? (f :: set) rest

/-- A character with which the name of a group may start. -/
def isNameStart (c : Char) : Bool :=
  c = '_' || isAlphabetic c

/-- A character that the name of a group may hold. -/
def isNameChar (c : Char) : Bool :=
  isNameStart c || isNumeric c || c = '.' || c = '[' || c = ']'

/-- Reads the name of a group up to the closing angle bracket. -/
def groupName? (cs : List Char) : Option (String × List Char) :=
  match cs.takeWhile (· ≠ '>'), cs.dropWhile (· ≠ '>') with
  | c :: name, _ :: rest =>
    if isNameStart c && name.all isNameChar then some (String.ofList (c :: name), rest) else none
  | _, _ => none

/-- What an opening bracket begins: a change of flags from here on, or a group. -/
inductive Opening where
  | change (f : FlagChange)
  | group (g : Grouping)

/-- Reads the signs after an opening bracket. -/
def opening? (spaced : Bool) (cs : List Char) : Option (Opening × List Char) :=
  match skipSpace spaced cs with
  | '?' :: '=' :: _ => none
  | '?' :: '!' :: _ => none
  | '?' :: '<' :: '=' :: _ => none
  | '?' :: '<' :: '!' :: _ => none
  | '?' :: 'P' :: '<' :: rest => (groupName? rest).map fun p => (.group (.named p.1), p.2)
  | '?' :: '<' :: rest => (groupName? rest).map fun p => (.group (.named p.1), p.2)
  | '?' :: rest =>
    match flags? [] rest with
    | some (f, ':', rest) => some (.group (.plain f), rest)
    | some (f, _, rest) =>
      if f.set.isEmpty && f.cleared.isEmpty then none else some (.change f, rest)
    | none => none
  | rest => some (.group .numbered, rest)

/-! ### Patterns -/

/-- A question mark after a repetition, which makes it short. -/
def greed : List Char → Bool × List Char
  | '?' :: rest => (false, rest)
  | cs => (true, cs)

/-- Repeats the last one of some parts; a change of flags cannot be repeated. -/
def repeatLast? (least : Nat) (most : Option Nat) (greedy : Bool) :
    List Pattern → Option (List Pattern)
  | [] => none
  | .flags _ :: _ => none
  | p :: ps => some (.repeated p least most greedy :: ps)

/-- The pattern of an escape. -/
def Escape.pattern : Escape → Pattern
  | .char c asByte => .char c asByte
  | .ofClass k => .ofClass k
  | .mark m => .mark m

/-- The choice between the branches so far and the parts of the last one, each with the last
one first. -/
def close (branches items : List Pattern) : Pattern :=
  .ofBranches (Pattern.ofItems items.reverse :: branches).reverse

/-- Reads a pattern up to a closing bracket or the end.  `branches` are the branches of a choice
so far and `items` the parts of the last one, each with the last one first. -/
def upToBracket? : Nat → Bool → List Pattern → List Pattern → List Char
    → Option (Pattern × List Char)
  | 0, _, _, _, _ => none
  | fuel + 1, spaced, branches, items, cs =>
    match skipSpace spaced cs with
    | [] => some (close branches items, [])
    | ')' :: rest => some (close branches items, ')' :: rest)
    | '|' :: rest => upToBracket? fuel spaced (.ofItems items.reverse :: branches) [] rest
    | '(' :: rest => do
      let (o, rest) ← opening? spaced rest
      match o with
      | .change f =>
        upToBracket? fuel (f.spacedFrom spaced) branches (.flags f :: items) rest
      | .group g => do
        let (p, rest) ← upToBracket? fuel (g.spacedFrom spaced) [] [] rest
        match rest with
        | ')' :: rest => upToBracket? fuel spaced branches (.group g p :: items) rest
        | _ => none
    | '[' :: rest => do
      let (k, rest) ← class? spaced rest
      upToBracket? fuel spaced branches (.ofClass k :: items) rest
    | '?' :: rest => do
      let (greedy, rest) := greed rest
      upToBracket? fuel spaced branches (← repeatLast? 0 (some 1) greedy items) rest
    | '*' :: rest => do
      let (greedy, rest) := greed rest
      upToBracket? fuel spaced branches (← repeatLast? 0 none greedy items) rest
    | '+' :: rest => do
      let (greedy, rest) := greed rest
      upToBracket? fuel spaced branches (← repeatLast? 1 none greedy items) rest
    | '\x7b' :: rest => do
      let ((least, most), rest) ← bounds? spaced rest
      let (greedy, rest) := greed (skipSpace spaced rest)
      upToBracket? fuel spaced branches (← repeatLast? least most greedy items) rest
    | '\\' :: rest => do
      let (e, rest) ← escape? spaced rest
      upToBracket? fuel spaced branches (e.pattern :: items) rest
    | '.' :: rest => upToBracket? fuel spaced branches (.dot :: items) rest
    | '^' :: rest => upToBracket? fuel spaced branches (.mark .caret :: items) rest
    | '$' :: rest => upToBracket? fuel spaced branches (.mark .dollar :: items) rest
    | c :: rest => upToBracket? fuel spaced branches (.char c false :: items) rest

/-- The greatest depth of a pattern. -/
def maxDepth : Nat := 250

/-- Reads a pattern.  `spaced` says that blanks and comments are left out from its start on. -/
def parse? (spaced : Bool) (cs : List Char) : Option Pattern := do
  let (p, rest) ← upToBracket? (cs.length + 1) spaced [] [] cs
  if rest.isEmpty && p.depth ≤ maxDepth && p.groupNames.Nodup then some p else none

end Pattern

end RelGraph.Text
