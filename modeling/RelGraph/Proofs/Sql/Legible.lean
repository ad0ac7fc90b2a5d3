import RelGraph.Proofs.Sql.Name
import RelGraph.Proofs.Sql.Typing

/-!
# Legible expressions and their texts

The text of an expression as a list of characters, form by form.  Two facts say where the smallest
parts of a text end: the name of a column at the first character that no name has, and a string at
the first quote that is not followed by another one.
-/

namespace RelGraph.Sql

open Text

namespace Expr

/-! ### Legible expressions -/

/-- Expressions that use conditions and strings where they belong and have no operator with less
than two operands, over columns whose names are read without spaces. -/
inductive Legible : Kind → Expr → Prop
  | always : Legible .condition .always
  | never : Legible .condition .never
  | column {c : Column} {name : String} (h : Column.parse name = .ok c)
      (hname : ' ' ∉ name.toList) : Legible .text (.column c)
  | constant (s : String) : Legible .text (.constant s)
  | concat {es : List Expr} (h : ∀ e ∈ es, Legible .text e) (hlength : 2 ≤ es.length) :
    Legible .text (.concat es)
  | and {es : List Expr} (h : ∀ e ∈ es, Legible .condition e) (hlength : 2 ≤ es.length) :
    Legible .condition (.and es)
  | or {es : List Expr} (h : ∀ e ∈ es, Legible .condition e) (hlength : 2 ≤ es.length) :
    Legible .condition (.or es)
  | not {e : Expr} (h : Legible .condition e) : Legible .condition (.not e)
  | equal {a b : Expr} (ha : Legible .text a) (hb : Legible .text b) :
    Legible .condition (.equal a b)
  | isNotNull {e : Expr} (h : Legible .text e) : Legible .condition (.isNotNull e)

/-- The operators that are written between their operands, in parentheses. -/
inductive Operator where
  | concat
  | and
  | or
  deriving DecidableEq

namespace Operator

/-- The expression with an operator and some operands. -/
def node : Operator → List Expr → Expr
  | .concat => .concat
  | .and => .and
  | .or => .or

/-- What is written between two operands. -/
def separator : Operator → List Char
  | .concat => [' ', '|', '|', ' ']
  | .and => [' ', 'A', 'N', 'D', ' ']
  | .or => [' ', 'O', 'R', ' ']

end Operator

/-! ### The characters of a text -/

/-- The characters of the text of an expression. -/
def chars (e : Expr) : List Char := e.render.toList

variable {es fs : List Expr} {e a b : Expr} {r s : List Char} {k k' : Kind}

theorem renderAll_eq_map (es : List Expr) :
  renderAll es = es.map render
  := by
  induction es with
  | nil => rfl
  | cons e es ih => rw [renderAll, ih, List.map_cons]

/-- The operands after the first one, and the closing parenthesis. -/
def following (o : Operator) (es : List Expr) (r : List Char) : List Char :=
  (es.flatMap fun e => o.separator ++ e.chars) ++ ')' :: r

theorem following_cons (o : Operator) (e : Expr) (es : List Expr) (r : List Char) :
  following o (e :: es) r = o.separator ++ (e.chars ++ following o es r)
  := by
  simp [following]

theorem chars_node (o : Operator) (e : Expr) (es : List Expr) (r : List Char) :
  (o.node (e :: es)).chars ++ r = '(' :: (e.chars ++ following o es r)
  := by
  have hchars : (o.node (e :: es)).chars
      = '(' :: (o.separator.intercalate ((e :: es).map fun e => e.render.toList) ++ [')']) := by
    cases o <;> simp [Operator.node, Operator.separator, chars, render, renderAll_eq_map,
      String.toList_intercalate, Function.comp_def]
  rw [hchars, List.map_cons, intercalate_cons, following, List.flatMap_map]
  simp [chars]

theorem chars_always :
  Expr.always.chars = ['1', ' ', '=', ' ', '1']
  := rfl

theorem chars_never :
  Expr.never.chars = ['1', ' ', '=', ' ', '0']
  := rfl

theorem chars_not (e : Expr) :
  (Expr.not e).chars = ['N', 'O', 'T', ' ', '('] ++ e.chars ++ [')']
  := by
  change ("NOT (" ++ e.render ++ ")").toList = _
  simp [chars]

theorem chars_equal (a b : Expr) :
  (Expr.equal a b).chars = a.chars ++ [' ', '=', ' '] ++ b.chars
  := by
  change (a.render ++ " = " ++ b.render).toList = _
  simp [chars]

theorem chars_isNotNull (e : Expr) :
  (Expr.isNotNull e).chars
    = e.chars ++ [' ', 'I', 'S', ' ', 'N', 'O', 'T', ' ', 'N', 'U', 'L', 'L']
  := by
  change (e.render ++ " IS NOT NULL").toList = _
  simp [chars]

theorem chars_constant (s : String) :
  (Expr.constant s).chars = quoteMark :: (doubleQuotes s.toList ++ [quoteMark])
  := by
  change (quote s).toList = _
  simp [quote]
  decide

/-! ### What can follow -/

/-- The text starts with a character that ends a column: a space or a closing parenthesis. -/
def Stops (r : List Char) : Prop := ∀ c ∈ r.head?, c = ' ' ∨ c = ')'

/-- The text can follow an operand: it does not go on with a comparison. -/
def Ends (r : List Char) : Prop :=
  Stops r ∧ r.take 2 ≠ [' ', '='] ∧ r.take 2 ≠ [' ', 'I']

theorem ends_nil :
  Ends []
  := by
  simp [Ends, Stops]

theorem ends_following (o : Operator) (es : List Expr) (r : List Char) :
  Ends (following o es r)
  := by
  cases es with
  | nil => simp [following, Ends, Stops]
  | cons e es => cases o <;> simp [following, Ends, Stops, Operator.separator]

/-! ### Columns -/

/-- The character can stand in the name of a column. -/
def isNameChar (c : Char) : Bool := c == '.' || (isIdentifierChar c && c != ' ')

/-- The name of a column has a dot, and ends at the first character that is in no name. -/
theorem isNameChar_chars {c : Column} {name : String} (h : Column.parse name = .ok c)
    (hname : ' ' ∉ name.toList) :
  '.' ∈ (Expr.column c).chars ∧ ∀ a ∈ (Expr.column c).chars, isNameChar a = true
  := by
  obtain ⟨hc, rfl⟩ := Column.parse_eq_ok_iff.1 h
  constructor
  · change '.' ∈ c.render.toList
    simp [Column.render]
  · intro a ha
    have hspace : a ≠ ' ' := by
      rintro rfl
      apply hname ha
    have hchar := Column.isIdentifierChar_of_mem_render hc ha
    simpa [isNameChar, hspace] using hchar

theorem isNameChar_of_stops (h : Stops r) :
  ∀ c ∈ r.head?, isNameChar c = false
  := by
  intro c hc
  obtain rfl | rfl := h c hc <;> decide

/-- Two names end at the same place. -/
theorem names_append_inj {cs ds : List Char} (hcs : ∀ c ∈ cs, isNameChar c = true)
    (hds : ∀ c ∈ ds, isNameChar c = true) (hr : Stops r) (hs : Stops s) (h : cs ++ r = ds ++ s) :
  cs = ds ∧ r = s
  := by
  have htake : ∀ {cs r : List Char}, (∀ c ∈ cs, isNameChar c = true) → Stops r
      → (cs ++ r).takeWhile isNameChar = cs := by
    intro cs r hcs hr
    rw [List.takeWhile_append_of_pos hcs]
    cases r with
    | nil => simp
    | cons c r => simp [isNameChar_of_stops hr c rfl]
  have heq : cs = ds := by
    rw [← htake hcs hr, h, htake hds hs]
  subst heq
  use rfl
  apply List.append_cancel_left h

/-- The name of a column is no word without a dot. -/
theorem name_append_ne {cs w rest : List Char} {c : Char} (hdot : '.' ∈ cs)
    (hcs : ∀ c ∈ cs, isNameChar c = true) (hw : '.' ∉ w) (hc : isNameChar c = false) :
  cs ++ r ≠ w ++ c :: rest
  := by
  intro h
  obtain ⟨t, rfl, -⟩ | ⟨t, rfl, ht⟩ := List.append_eq_append_iff.1 h
  · apply hw (List.mem_append_left t hdot)
  · cases t with
    | nil =>
      rw [List.append_nil] at hdot
      apply hw hdot
    | cons d t =>
      rw [(List.cons.inj ht).1, hcs d (by simp)] at hc
      cases hc

/-! ### Strings -/

theorem doubleQuotes_cons (c : Char) (cs : List Char) :
  doubleQuotes (c :: cs) = (if c = quoteMark then [c, c] else [c]) ++ doubleQuotes cs
  := rfl

/-- A string ends at the first quote that is not followed by another one. -/
theorem doubleQuotes_append_inj {cs ds : List Char} (hr : r.head? ≠ some quoteMark)
    (hs : s.head? ≠ some quoteMark)
    (h : doubleQuotes cs ++ quoteMark :: r = doubleQuotes ds ++ quoteMark :: s) :
  cs = ds ∧ r = s
  := by
  have hnil : ∀ {d ds r s}, r.head? ≠ some quoteMark
      → doubleQuotes [] ++ quoteMark :: r ≠ doubleQuotes (d :: ds) ++ quoteMark :: s := by
    intro d ds r s hr h
    rw [doubleQuotes_cons] at h
    split at h
    · rename_i hd
      subst hd
      rw [(List.cons.inj h).2] at hr
      apply hr rfl
    · rename_i hd
      apply hd (List.cons.inj h).1.symm
  induction cs generalizing ds with
  | nil =>
    cases ds with
    | nil => simpa [doubleQuotes] using h
    | cons d ds => apply absurd h (hnil hr)
  | cons c cs ih =>
    cases ds with
    | nil => apply absurd h.symm (hnil hs)
    | cons d ds =>
      rw [doubleQuotes_cons, doubleQuotes_cons, List.append_assoc, List.append_assoc] at h
      have hcd : c = d := by
        split at h <;> split at h <;> exact (List.cons.inj h).1
      subst hcd
      obtain ⟨rfl, hrs⟩ := ih (List.append_cancel_left h)
      exact ⟨rfl, hrs⟩

theorem head?_ne_quoteMark (h : Stops r) :
  r.head? ≠ some quoteMark
  := by
  intro hr
  obtain hq | hq := h quoteMark hr <;> revert hq <;> decide

end Expr

end RelGraph.Sql
