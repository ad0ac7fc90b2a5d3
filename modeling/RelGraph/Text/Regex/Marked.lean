import RelGraph.Text.Regex.Tree

/-!
# Matching

An expression is matched by marks that move through it as the text is read.  A mark stands where
a character has just been matched: the marks after a part of the text are the places that some
match reaches with that part.  Reading a character moves all marks at once, so a text is read
only once.

Conditions on a position see the character before it and the one after it.
-/

namespace RelGraph.Text

/-- A position in a text: the characters next to it, if it is not at an end. -/
structure Position where
  before : Option Char
  after : Option Char

namespace Position

/-- An ASCII character of a word. -/
def isAsciiWordChar (c : Char) : Bool :=
  c.isAlphanum || c = '_'

/-- A word comes from before, and a word goes on after. -/
def words (p : Position) (ascii : Bool) : Bool × Bool :=
  let isWord := if ascii then isAsciiWordChar else isWordChar
  ((p.before.map isWord).getD false, (p.after.map isWord).getD false)

end Position

/-- The edge lies between what comes from before and what goes on. -/
def WordEdge.holds (before after : Bool) : WordEdge → Bool
  | .boundary => before != after
  | .noBoundary => before == after
  | .start => !before && after
  | .finish => before && !after
  | .startHalf => !before
  | .finishHalf => !after

/-- The condition holds at a position. -/
def Anchor.holds (p : Position) : Anchor → Bool
  | .textStart => p.before.isNone
  | .textEnd => p.after.isNone
  | .lineStart false => p.before.isNone || p.before == some '\n'
  | .lineStart true =>
    p.before.isNone || p.before == some '\n' || (p.before == some '\r' && p.after != some '\n')
  | .lineEnd false => p.after.isNone || p.after == some '\n'
  | .lineEnd true =>
    p.after.isNone || p.after == some '\r' || (p.after == some '\n' && p.before != some '\r')
  | .word e ascii => e.holds (p.words ascii).1 (p.words ascii).2

/-- An expression with marks.  In sequences and choices, `live` says that there are marks in a
part of it. -/
inductive Marked where
  | empty
  | anchor (a : Anchor)
  /-- At least `least` and at most `most` characters of a set.  Bit `k` of `marks` says that
  `k` characters, at least one, have just been matched. -/
  | run (s : CharSet) (least most marks : Nat)
  | seq (live : Bool) (m n : Marked)
  | alt (live : Bool) (m n : Marked)
  /-- Once or more often. -/
  | plus (m : Marked)
  /-- Once or not at all. -/
  | opt (m : Marked)

namespace Marked

/-! ### Marks -/

/-- There are marks in the expression. -/
def isLive : Marked → Bool
  | .empty => false
  | .anchor _ => false
  | .run _ _ _ marks => marks != 0
  | .seq live _ _ => live
  | .alt live _ _ => live
  | .plus m => m.isLive
  | .opt m => m.isLive

/-- One expression after another. -/
def andThen (m n : Marked) : Marked :=
  .seq (m.isLive || n.isLive) m n

/-- One expression or another. -/
def orElse (m n : Marked) : Marked :=
  .alt (m.isLive || n.isLive) m n

/-- The expression matches the empty text at a position. -/
def nullable (p : Position) : Marked → Bool
  | .empty => true
  | .anchor a => a.holds p
  | .run _ least _ _ => least == 0
  | .seq _ m n => m.nullable p && n.nullable p
  | .alt _ m n => m.nullable p || n.nullable p
  | .plus m => m.nullable p
  | .opt _ => true

/-- A mark leads to the end of the expression at a position. -/
def final (p : Position) : Marked → Bool
  | .empty => false
  | .anchor _ => false
  | .run _ least _ marks => marks >>> least != 0
  | .seq live m n => live && (n.final p || (n.nullable p && m.final p))
  | .alt live m n => live && (m.final p || n.final p)
  | .plus m => m.final p
  | .opt m => m.final p

/-- The marks of a run after a character that belongs to its set. -/
def shiftRun (enter : Bool) (most marks : Nat) : Nat :=
  (marks * 2 + (if enter then 2 else 0)) % (1 <<< (most + 1))

/-- Moves the marks over the character after a position; `enter` says that the start of the
expression is reached there.  Where there is nothing to move, the expression stays as it is. -/
def shift (p : Position) (c : Char) (enter : Bool) : Marked → Marked
  | .empty => .empty
  | .anchor a => .anchor a
  | .run s least most marks =>
    if !enter && marks == 0 then .run s least most marks
    else .run s least most (if s.contains c then shiftRun enter most marks else 0)
  | .seq live m n =>
    if !enter && !live then .seq live m n
    else andThen (m.shift p c enter) (n.shift p c (m.final p || (enter && m.nullable p)))
  | .alt live m n =>
    if !enter && !live then .alt live m n
    else orElse (m.shift p c enter) (n.shift p c enter)
  | .plus m => .plus (m.shift p c (enter || m.final p))
  | .opt m => .opt (m.shift p c enter)

/-- The marked expression matches somewhere in the rest of a text, of which `before` is the
character before it. -/
def search (m : Marked) (before : Option Char) : List Char → Bool
  | [] => m.nullable ⟨before, none⟩ || m.final ⟨before, none⟩
  | c :: cs =>
    let p : Position := ⟨before, some c⟩
    m.nullable p || m.final p || search (m.shift p c true) (some c) cs

/-! ### Expressions without marks -/

/-- Joins expressions by an operation, in pairs, so that the result is not deep. -/
def joined (f : Marked → Marked → Marked) (unit : Marked) : Nat → List Marked → Marked
  | _, [] => unit
  | _, [m] => m
  | 0, m :: ms => ms.foldl f m
  | depth + 1, ms =>
    let half := ms.length / 2
    f (joined f unit depth (ms.take half)) (joined f unit depth (ms.drop half))

/-- The sequence of some expressions. -/
def sequence (ms : List Marked) : Marked :=
  joined andThen .empty ms.length.log2 ms

/-- An expression that matches nothing. -/
def never : Marked := .run .empty 1 1 0

/-- The choice between some expressions. -/
def choice (ms : List Marked) : Marked :=
  joined orElse never ms.length.log2 ms

/-- A repetition of any expression. -/
def repeated (m : Marked) (least : Nat) : Option Nat → Marked
  | none =>
    match least with
    | 0 => .opt (.plus m)
    | n + 1 => sequence (List.replicate n m ++ [.plus m])
  | some most => sequence (List.replicate least m ++ List.replicate (most - least) (.opt m))

/-- A repetition of single characters of a set. -/
def repeatedRun (s : CharSet) (least : Nat) : Option Nat → Marked
  | some most => .run s least most 0
  | none => andThen (.run s least least 0) (.opt (.plus (.run s 1 1 0)))

/-- Puts a character in front of some runs; equal characters next to each other are one run. -/
def putChar (c : Char) : List (Char × Nat) → List (Char × Nat)
  | [] => [(c, 1)]
  | (d, n) :: rest => if c = d then (d, n + 1) :: rest else (c, 1) :: (d, n) :: rest

/-- The given characters, one after the other. -/
def ofText (cs : List Char) : Marked :=
  sequence ((cs.foldr putChar []).map fun (c, n) => .run (.single c) n n 0)

end Marked

namespace Regex

/-- The set of an expression that matches single characters. -/
def singles? : Regex → Option CharSet
  | .set s => some s
  | .text [c] => some (.single c)
  | .capture _ r => r.singles?
  | _ => none

mutual

/-- The expression, as yet without marks. -/
def marked : Regex → Marked
  | .empty => .empty
  | .text cs => .ofText cs
  | .set s => .run s 1 1 0
  | .anchor a => .anchor a
  | .repeated r least most _ =>
    match r.singles? with
    | some s => .repeatedRun s least most
    | none => r.marked.repeated least most
  | .capture _ r => r.marked
  | .seq rs => .sequence (markedAll rs)
  | .alt rs => .choice (markedAll rs)

/-- Some expressions without marks. -/
def markedAll : List Regex → List Marked
  | [] => []
  | r :: rs => r.marked :: markedAll rs

end

/-- The expression matches somewhere in a text. -/
def matchesIn (r : Regex) (text : String) : Bool :=
  r.marked.search none text.toList

end Regex

end RelGraph.Text
