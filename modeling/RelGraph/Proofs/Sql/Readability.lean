import RelGraph.Proofs.Sql.UniqueReading

/-!
# Strings in SQL texts

A reader of an SQL text that knows only the rule for quotes finds the strings of an expression in
its text: what it sees around them is the text of the expression with empty strings
(`Expr.Legible.blanks`).  So the value of a string changes nothing around it.
-/

namespace RelGraph.Sql

namespace Expr

variable {es : List Expr} {e a b : Expr} {r : List Char} {k k' : Kind}

/-! ### The text around the strings -/

/-- Where in a text a reader stands: outside of strings, in a string, or after a quote in a string,
which ends the string unless another quote follows. -/
inductive Quoting where
  | outside
  | inside
  | atQuote

/-- The text around the strings of a text: what is between their quotes is left out. -/
def around : Quoting → List Char → List Char
  | .outside, [] => []
  | .inside, [] => []
  | .atQuote, [] => [quoteMark]
  | .outside, c :: cs => c :: around (if c = quoteMark then .inside else .outside) cs
  | .inside, c :: cs => around (if c = quoteMark then .atQuote else .inside) cs
  | .atQuote, c :: cs =>
    if c = quoteMark then around .inside cs else quoteMark :: c :: around .outside cs

theorem around_append_of_not_mem {cs : List Char} (h : quoteMark ∉ cs) :
  around .outside (cs ++ r) = cs ++ around .outside r
  := by
  induction cs with
  | nil => rfl
  | cons c cs ih =>
    rw [List.mem_cons, not_or] at h
    rw [List.cons_append, around, if_neg (Ne.symm h.1), ih h.2, List.cons_append]

theorem around_doubleQuotes (cs : List Char) (hr : r.head? ≠ some quoteMark) :
  around .inside (doubleQuotes cs ++ quoteMark :: r) = quoteMark :: around .outside r
  := by
  induction cs with
  | nil =>
    cases r with
    | nil => simp [doubleQuotes, around]
    | cons c r =>
      have hc : c ≠ quoteMark := by simpa using hr
      simp [doubleQuotes, around, hc]
  | cons c cs ih =>
    rw [doubleQuotes_cons]
    split <;> simp [around, *]

mutual

/-- The expression with all its strings emptied. -/
def blank : Expr → Expr
  | .always => .always
  | .never => .never
  | .column c => .column c
  | .constant _ => .constant ""
  | .concat es => .concat (blankAll es)
  | .and es => .and (blankAll es)
  | .or es => .or (blankAll es)
  | .not e => .not (blank e)
  | .equal a b => .equal (blank a) (blank b)
  | .isNotNull e => .isNotNull (blank e)

/-- The expressions with all their strings emptied. -/
def blankAll : List Expr → List Expr
  | [] => []
  | e :: es => blank e :: blankAll es

end

theorem blankAll_eq_map (es : List Expr) :
  blankAll es = es.map blank
  := by
  induction es with
  | nil => rfl
  | cons e es ih => rw [blankAll, ih, List.map_cons]

theorem Legible.blank (h : Legible k e) :
  Legible k e.blank
  := by
  have hall : ∀ {k es}, (∀ e ∈ es, Legible k e.blank) → ∀ e ∈ blankAll es, Legible k e := by
    intro k es h e he
    rw [blankAll_eq_map, List.mem_map] at he
    obtain ⟨e, he, rfl⟩ := he
    apply h e he
  have hlength : ∀ {es : List Expr}, 2 ≤ es.length → 2 ≤ (blankAll es).length := by
    intro es h
    rwa [blankAll_eq_map, List.length_map]
  induction h with
  | always => exact .always
  | never => exact .never
  | column h hname => exact .column h hname
  | constant _ => exact .constant ""
  | concat _ h ih => exact .concat (hall ih) (hlength h)
  | and _ h ih => exact .and (hall ih) (hlength h)
  | or _ h ih => exact .or (hall ih) (hlength h)
  | not _ ih => exact .not ih
  | equal _ _ iha ihb => exact .equal iha ihb
  | isNotNull _ ih => exact .isNotNull ih

theorem blank_node (o : Operator) (es : List Expr) :
  (o.node es).blank = o.node (es.map Expr.blank)
  := by
  rw [← blankAll_eq_map]
  cases o <;> rfl

/-! ### Texts with empty strings -/

/-- The text around the strings of the expression is the one of the expression with empty strings,
whatever comes after it. -/
def Blanks (e : Expr) : Prop :=
  ∀ ⦃r : List Char⦄, Stops r
    → around .outside (e.chars ++ r) = e.blank.chars ++ around .outside r

theorem around_following (o : Operator) (h : ∀ e ∈ es, Blanks e) :
  around .outside (following o es r) = following o (es.map Expr.blank) (around .outside r)
  := by
  induction es with
  | nil => rfl
  | cons e es ih =>
    rw [List.forall_mem_cons] at h
    have hseparator : quoteMark ∉ o.separator := by cases o <;> decide
    rw [following_cons, List.map_cons, following_cons, around_append_of_not_mem hseparator,
      h.1 (ends_following _ _ _).1, ih h.2]

theorem blanks_node (o : Operator) (hlength : 2 ≤ es.length) (h : ∀ e ∈ es, Blanks e) :
  Blanks (o.node es)
  := by
  intro r hr
  obtain _ | ⟨e, es⟩ := es
  · simp at hlength
  rw [List.forall_mem_cons] at h
  have hparenthesis : '(' ≠ quoteMark := by decide
  rw [blank_node, List.map_cons, chars_node, chars_node, around, if_neg hparenthesis,
    h.1 (ends_following _ _ _).1, around_following o h.2]

theorem blanks_constant (s : String) :
  Blanks (.constant s)
  := by
  intro r hr
  have hquoted : ∀ (s : String) (r : List Char), (Expr.constant s).chars ++ r
      = quoteMark :: (doubleQuotes s.toList ++ quoteMark :: r) := by
    intro s r
    simp [chars_constant]
  rw [Expr.blank, hquoted, hquoted, around, if_pos rfl,
    around_doubleQuotes _ (head?_ne_quoteMark hr)]
  rfl

theorem blanks_not (h : Blanks e) :
  Blanks (.not e)
  := by
  intro r _
  have hword : quoteMark ∉ ['N', 'O', 'T', ' ', '('] := by decide
  have hclosing : quoteMark ∉ [')'] := by decide
  have hstops : Stops ([')'] ++ r) := by simp [Stops]
  change _ = (Expr.not e.blank).chars ++ _
  simp only [chars_not, List.append_assoc]
  rw [around_append_of_not_mem hword, h hstops, around_append_of_not_mem hclosing]

theorem blanks_equal (ha : Blanks a) (hb : Blanks b) :
  Blanks (.equal a b)
  := by
  intro r hr
  have hword : quoteMark ∉ [' ', '=', ' '] := by decide
  have hstops : Stops ([' ', '=', ' '] ++ (b.chars ++ r)) := by simp [Stops]
  change _ = (Expr.equal a.blank b.blank).chars ++ _
  simp only [chars_equal, List.append_assoc]
  rw [ha hstops, around_append_of_not_mem hword, hb hr]

theorem blanks_isNotNull (h : Blanks e) :
  Blanks (.isNotNull e)
  := by
  intro r _
  have hword : quoteMark ∉ [' ', 'I', 'S', ' ', 'N', 'O', 'T', ' ', 'N', 'U', 'L', 'L'] := by decide
  have hstops : Stops ([' ', 'I', 'S', ' ', 'N', 'O', 'T', ' ', 'N', 'U', 'L', 'L'] ++ r) := by
    simp [Stops]
  change _ = (Expr.isNotNull e.blank).chars ++ _
  simp only [chars_isNotNull, List.append_assoc]
  rw [h hstops, around_append_of_not_mem hword]

theorem Legible.blanks (h : Legible k e) :
  Blanks e
  := by
  induction h with
  | always =>
    intro r _
    apply around_append_of_not_mem (by decide)
  | never =>
    intro r _
    apply around_append_of_not_mem (by decide)
  | column h hname =>
    intro r _
    apply around_append_of_not_mem
    intro hquote
    apply absurd ((isNameChar_chars h hname).2 _ hquote) (by decide)
  | constant s => apply blanks_constant
  | concat _ hlength ih => apply blanks_node .concat hlength ih
  | and _ hlength ih => apply blanks_node .and hlength ih
  | or _ hlength ih => apply blanks_node .or hlength ih
  | not _ ih => apply blanks_not ih
  | equal _ _ iha ihb => apply blanks_equal iha ihb
  | isNotNull _ ih => apply blanks_isNotNull ih

theorem Legible.eq_of_render_eq (ha : Legible k a) (hb : Legible k' b) (h : a.render = b.render) :
  a = b
  := by
  have hchars : a.chars ++ [] = b.chars ++ [] := by rw [chars, chars, h]
  apply (ha.found.2 hb ends_nil ends_nil hchars).1

theorem Legible.around_render (h : Legible k e) :
  around .outside e.render.toList = e.blank.render.toList
  := by
  have hstops : Stops [] := ends_nil.1
  simpa [chars, around] using h.blanks hstops

/-- Expressions with the same text are the same, and expressions with the same text around their
strings are the same but for the values of these. -/
theorem render_unambiguous (ha : Legible k a) (hb : Legible k' b) :
  (a.render = b.render → a = b)
    ∧ (around .outside a.render.toList = around .outside b.render.toList ↔ a.blank = b.blank)
  := by
  use ha.eq_of_render_eq hb
  rw [ha.around_render, hb.around_render, String.toList_inj]
  constructor
  · apply ha.blank.eq_of_render_eq hb.blank
  · intro h
    rw [h]

/-- The comparison of a column with a value. -/
def nameIs (value : String) : Expr :=
  .equal (.column ⟨⟨none, "people"⟩, "name"⟩) (.constant value)

theorem legible_nameIs (value : String) :
  Legible .condition (nameIs value)
  := by
  have hparse : Column.parse "people.name" = .ok ⟨⟨none, "people"⟩, "name"⟩ := by rfl
  exact .equal (.column hparse (by decide)) (.constant value)

/-- What a value with quotes could make of the comparison if they were not doubled. -/
def forged : Expr :=
  .or [nameIs "", .equal (.constant "1") (.constant "1")]

/-- Around a value that pretends to end its string stands what stands around any other value. -/
theorem render_unambiguous_forged :
  Legible .condition (nameIs "' OR '1' = '1") ∧ Legible .condition forged
    ∧ around .outside (nameIs "' OR '1' = '1").render.toList
      = around .outside (nameIs "Ann").render.toList
    ∧ around .outside (nameIs "' OR '1' = '1").render.toList ≠ around .outside forged.render.toList
  := by
  have hvalue := legible_nameIs "' OR '1' = '1"
  have hforged : Legible .condition forged := by
    apply Legible.or _ (by decide)
    rw [List.forall_mem_cons, List.forall_mem_singleton]
    exact ⟨legible_nameIs "", .equal (.constant "1") (.constant "1")⟩
  use hvalue, hforged, (render_unambiguous hvalue (legible_nameIs "Ann")).2.2 rfl
  intro h
  have hblank := (render_unambiguous hvalue hforged).2.1 h
  cases hblank

end Expr

end RelGraph.Sql
