import Std.Data.HashMap
import RelGraph.Text.Regex.Tree
import RelGraph.Text.Regex.Utf8

/-!
# The size of an expression

An expression is refused if an automaton for it is too large.  The automaton reads bytes, and
repetitions are written out in it.  It is built twice, for reading a text forward and for
reading it backward, and neither may need more than a million bytes: 32 bytes for a state, 8 for
a link of a state that leads on by bytes, and 4 for a link of a state that leads on without one.
`Extent` is what an automaton has grown to, and `Regex.grow` adds the states of an expression.

The states of a set are shared where sequences of bytes end in the same way.  The shared states
are found by slots, and a state that comes later takes the slot of an earlier one.
-/

namespace RelGraph.Text

/-- The direction in which an automaton reads a text. -/
inductive Direction where
  | forward
  | backward

/-- What an automaton has grown to. -/
structure Extent where
  /-- The number of states. -/
  states : Nat
  /-- The bytes for the links. -/
  links : Nat

namespace Extent

/-- The greatest number of bytes. -/
def limit : Nat := 1000000

/-- The number of bytes. -/
def bytes (e : Extent) : Nat :=
  32 * e.states + e.links

/-- There are too many bytes. -/
def exceeds (e : Extent) : Bool :=
  limit < e.bytes

/-- Adds a state with the bytes for its links. -/
def add (e : Extent) (links : Nat) : Extent :=
  ⟨e.states + 1, e.links + links⟩

/-- Adds bytes for links. -/
def link (e : Extent) (links : Nat) : Extent :=
  ⟨e.states, e.links + links⟩

end Extent

/-- A part of an automaton: what the automaton has grown to with it, and whether its last state
is one that may lead on to several states. -/
structure Extent.Part where
  extent : Extent
  branching : Bool

/-- Leads on from the end of a part; a branching state gets one more link. -/
def Extent.Part.onward (p : Extent.Part) : Extent :=
  if p.branching then p.extent.link 4 else p.extent

namespace Extent

/-! ### Sets of characters -/

/-- Adds a number to a hash value. -/
def mix (h : UInt64) (n : Nat) : UInt64 :=
  (h ^^^ n.toUInt64) * 1099511628211

/-- The slot of some numbers. -/
def slot (size : Nat) (ns : List Nat) : Nat :=
  (ns.foldl mix 14695981039346656037).toNat % size

/-- The states that can be shared, each in its slot with what it stands for. -/
abbrev Shared := Std.HashMap Nat (List Nat × Nat)

/-- Finds the state that stands for some numbers, or adds one with the bytes for its links. -/
def share (size links : Nat) (key : List Nat) (e : Extent) (known : Shared) :
    Nat × Extent × Shared :=
  let i := slot size key
  match known[i]? with
  | some (key', state) =>
    if key = key' then (state, e, known)
    else (e.states, e.add links, known.insert i (key, e.states))
  | none => (e.states, e.add links, known.insert i (key, e.states))

/-- Adds the states of a sequence of ranges of bytes, read from its end, in front of a state. -/
def backwardSequence (start : Nat) (e : Extent) (known : Shared) :
    List Utf8.ByteRange → Extent × Shared
  | [] => (e.link 4, known)
  | (first, last) :: rest =>
    let (state, e, known) := share 1000 0 [start, first, last] e known
    backwardSequence state e known rest

/-- Adds the states of a set of characters for reading backward. -/
def backwardSet (s : CharSet) (e : Extent) : Extent :=
  let stop := e.states + 1
  let start : Extent × Shared := ((e.add 0).add 0, ∅)
  ((s.ranges.flatMap Utf8.sequences).foldl
    (fun p bytes => backwardSequence stop p.1 p.2 bytes) start).1

/-- A state of which all links are known, apart from the one that is open. -/
structure Draft where
  /-- The first byte, the last byte and the next state of each link, the last link first. -/
  links : List (Nat × Nat × Nat)
  /-- The bytes of the open link, which leads to the draft after this one. -/
  pending : Option Utf8.ByteRange

/-- The draft after its open link has been led to a state. -/
def Draft.leadTo (d : Draft) (state : Nat) : Draft :=
  match d.pending with
  | some (first, last) => ⟨(first, last, state) :: d.links, none⟩
  | none => d

/-- Adds the state of a finished draft. -/
def addDraft (d : Draft) (e : Extent) (known : Shared) : Nat × Extent × Shared :=
  share 10000 (8 * d.links.length) (d.links.reverse.flatMap fun l => [l.1, l.2.1, l.2.2]) e known

/-- Adds the states of some drafts, each of which leads to the next one and the last one to a
state.  Gives the state of the first draft. -/
def addDrafts (stop : Nat) (e : Extent) (known : Shared) : List Draft → Nat × Extent × Shared
  | [] => (stop, e, known)
  | d :: ds =>
    let (state, e, known) := addDrafts stop e known ds
    addDraft (d.leadTo state) e known

/-- Reads a sequence of ranges of bytes into drafts, of which each leads to the next one: the
drafts after the last one that stays open are finished. -/
def forwardSequence (stop : Nat) (e : Extent) (known : Shared) :
    List Draft → List Utf8.ByteRange → List Draft × Extent × Shared
  | [], bytes => (bytes.map fun b => ⟨[], some b⟩, e, known)
  | ds, [] => (ds, e, known)
  | d :: ds, b :: bytes =>
    if d.pending = some b then
      let (ds, e, known) := forwardSequence stop e known ds bytes
      (d :: ds, e, known)
    else
      let (state, e, known) := addDrafts stop e known ds
      let d := d.leadTo state
      (⟨d.links, some b⟩ :: bytes.map fun b => ⟨[], some b⟩, e, known)

/-- Adds the states of a set of characters for reading forward. -/
def forwardSet (s : CharSet) (e : Extent) : Extent :=
  let stop := e.states
  let start : List Draft × Extent × Shared := ([⟨[], none⟩], e.add 0, ∅)
  let (ds, e, known) := (s.ranges.flatMap Utf8.sequences).foldl
    (fun p bytes => forwardSequence stop p.2.1 p.2.2 p.1 bytes) start
  (addDrafts stop e known ds).2.1

/-- Adds the states of a set of characters. -/
def ofSet (d : Direction) (s : CharSet) (e : Extent) : Extent :=
  if s.isAscii then (e.add 0).add (8 * s.ranges.length)
  else
    match d with
    | .forward => forwardSet s e
    | .backward => backwardSet s e

/-! ### Choices between texts -/

/-- The bytes of a text in the order in which they are read. -/
def textBytes (d : Direction) (cs : List Char) : List Nat :=
  let bytes := cs.flatMap fun c => Utf8.bytes c.toNat
  match d with
  | .forward => bytes
  | .backward => bytes.reverse

/-- Splits a list of words after each empty one.  A word that is empty from the start counts
once. -/
def wordGroups : List (List Nat) → List (List Nat) → List (List (List Nat))
  | group, [] => [group.reverse]
  | group, [] :: ws => group.reverse :: wordGroups [] ws
  | group, w :: ws => wordGroups (w :: group) ws

/-- The first bytes of some words, each once. -/
def heads (ws : List (List Nat)) : List Nat :=
  (ws.filterMap List.head?).eraseDups

/-- The words that start with a byte, without it. -/
def tailsAfter (b : Nat) (ws : List (List Nat)) : List (List Nat) :=
  ws.filterMap fun
    | [] => none
    | c :: w => if c = b then some w else none

/-- Adds the states of a choice between words, given as lists of bytes, which starts in one
state and shares what words have in common at their start.  An earlier word is preferred to a
later one, so words are only shared up to the next one that ends.  `fuel` is more than the
length of the words. -/
def ofWords : Nat → List (List Nat) → Extent → Extent
  | 0, _, e => e
  | fuel + 1, ws, e =>
    let ws :=
      match ws.dropWhile List.isEmpty with
      | rest => if rest.length < ws.length then [] :: rest else rest
    let groups := wordGroups [] ws
    let e := groups.foldl (fun e group =>
      let firsts := heads group
      let e := firsts.foldl (fun e b =>
        let rest := tailsAfter b group
        if rest.all List.isEmpty then e else ofWords fuel rest e) e
      match firsts with
      | [] => e
      | [_] => e.add 0
      | _ => e.add (8 * firsts.length)) e
    let used := groups.filter fun group => !group.isEmpty
    e.add (4 * (used.length + (groups.length - 1)))

/-- Adds the states of a choice between texts. -/
def ofTexts (d : Direction) (texts : List (List Char)) (e : Extent) : Extent :=
  let words := texts.map (textBytes d)
  let longest := words.foldl (fun n w => max n w.length) 0
  ofWords (longest + 1) words (e.add 0)

end Extent

namespace Regex

open Extent (Part)

/-- The characters of a text. -/
def text? : Regex → Option (List Char)
  | .text cs => some cs
  | _ => none

/-- Every match has at least one character; unknown if a set without members stands somewhere. -/
def consumes (r : Regex) : Bool :=
  match r.minLength with
  | some n => 0 < n
  | none => false

/-- Adds a part some times, until there are too many bytes. -/
def growTimes (f : Extent → Part) : Nat → Part → Part
  | 0, p => p
  | n + 1, p => if p.extent.exceeds then p else growTimes f n (f p.onward)

/-- Adds a part exactly some times. -/
def growExactly (f : Extent → Part) (n : Nat) (e : Extent) : Part :=
  match n with
  | 0 => ⟨e.add 0, false⟩
  | n + 1 => growTimes f n (f e)

/-- Adds a part that may be left out, some times one inside the other. -/
def growOptional (f : Extent → Part) : Nat → Extent → Extent
  | 0, e => e
  | n + 1, e => if e.exceeds then e else growOptional f n (f (e.add 8)).onward

/-- Adds the states of a repetition; `consumes` says that what is repeated matches no empty
text. -/
def growRepeated (f : Extent → Part) (consumes : Bool) (least : Nat) (most : Option Nat)
    (e : Extent) : Part :=
  match least, most with
  | 0, some 1 => ⟨(f (e.add 8)).onward.add 0, false⟩
  | 0, none =>
    if consumes then ⟨(f (e.add 4)).onward, true⟩
    else ⟨(((f e).onward.add 8).add 8).add 0, false⟩
  | 1, none => ⟨(f e).onward.add 4, true⟩
  | least, none => ⟨(f (growExactly f (least - 1) e).onward).onward.add 4, true⟩
  | least, some most =>
    if least = most then growExactly f least e
    else ⟨growOptional f (most - least) ((growExactly f least e).onward.add 0), false⟩

mutual

/-- Adds the states of an expression to an automaton, unless that is too large already. -/
def grow (d : Direction) : Regex → Extent → Part
  | .empty, e => ⟨e.add 0, false⟩
  | .text cs, e => ⟨⟨e.states + (Extent.textBytes d cs).length, e.links⟩, false⟩
  | .set s, e => if e.exceeds then ⟨e, false⟩ else ⟨Extent.ofSet d s e, false⟩
  | .anchor _, e => ⟨e.add 0, false⟩
  | .repeated r least most _, e =>
    growRepeated (grow d r) r.consumes least most e
  | .capture _ r, e =>
    match d with
    | .forward => ⟨(grow d r (e.add 0)).onward.add 0, false⟩
    | .backward => grow d r e
  | .seq rs, e => growSeq d rs e
  | .alt rs, e =>
    match rs.mapM text? with
    | some texts => ⟨Extent.ofTexts d texts e, false⟩
    | none => growAlt d rs e

/-- Adds the states of a sequence, in the order in which it is read. -/
def growSeq (d : Direction) : List Regex → Extent → Part
  | [], e => ⟨e.add 0, false⟩
  | [r], e => grow d r e
  | r :: rs, e =>
    match d with
    | .forward => growSeq d rs (grow d r e).onward
    | .backward => grow d r (growSeq d rs e).onward

/-- Adds the states of a choice: two branches, the states where the branches part and meet, and
the other branches. -/
def growAlt (d : Direction) : List Regex → Extent → Part
  | r :: s :: rs, e =>
    let e := (grow d s (grow d r e).onward).onward
    ⟨growRest d rs ((e.add (4 * (rs.length + 2))).add 0), false⟩
  | [r], e => grow d r e
  | [], e => ⟨e.add 0, false⟩

/-- Adds the states of further branches. -/
def growRest (d : Direction) : List Regex → Extent → Extent
  | [], e => e
  | r :: rs, e => growRest d rs (grow d r e).onward

end

/-- The states that precede an expression: it may start anywhere, unless it is anchored. -/
def entrance (anchored : Bool) : Extent :=
  if anchored then ⟨1, 0⟩ else ⟨3, 16⟩

/-- The automaton that reads a text forward; it notes where a match starts and ends. -/
def forwardExtent (r : Regex) : Extent :=
  let e := entrance r.startsAtStart
  ((r.grow .forward (e.add 0)).onward.add 0).add 0

/-- The automaton that reads a text backward. -/
def backwardExtent (r : Regex) : Extent :=
  let e := entrance r.endsAtEnd
  (r.grow .backward e).onward.add 0

/-- The expression is a choice between so many texts that it needs no automaton. -/
def isWordList : Regex → Bool
  | .alt rs => 3000 ≤ rs.length && (rs.mapM text?).isSome
  | _ => false

/-- The expression is not too large. -/
def fits (r : Regex) : Bool :=
  r.isWordList || (!r.forwardExtent.exceeds && !r.backwardExtent.exceeds)

end Regex

end RelGraph.Text
