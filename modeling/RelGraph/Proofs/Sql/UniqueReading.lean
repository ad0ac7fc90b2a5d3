import RelGraph.Proofs.Sql.Legible

/-!
# Unique reading of SQL texts

The text of a legible expression, and what can follow it, determine where it ends and what it is
(`Expr.Legible.found`).  An expression that is neither a column nor a comparison is told apart by
the word its text starts with, and a comparison by what comes after its left side.  After an operand
comes an operator or a parenthesis, and never a comparison.
-/

namespace RelGraph.Sql

namespace Expr

variable {es fs : List Expr} {e a b : Expr} {r s : List Char} {k k' : Kind}

/-! ### Being found in a text -/

/-- The expression is a comparison, with or without another expression. -/
def isComparison : Expr → Bool
  | .equal _ _ => true
  | .isNotNull _ => true
  | _ => false

/-- The expression is found at the start of its text, if what follows it goes on with a space or a
parenthesis, unless it is read as a part of a comparison. -/
def FoundAtStart (a : Expr) : Prop :=
  ∀ ⦃k : Kind⦄ ⦃b : Expr⦄ ⦃r s : List Char⦄, Legible k b → b.isComparison = false → Stops r
    → Stops s → a.chars ++ r = b.chars ++ s → a = b ∧ r = s

/-- The expression is found at the start of its text, if what follows it can follow an operand. -/
def FoundAsOperand (a : Expr) : Prop :=
  ∀ ⦃k : Kind⦄ ⦃b : Expr⦄ ⦃r s : List Char⦄, Legible k b → Ends r → Ends s
    → a.chars ++ r = b.chars ++ s → a = b ∧ r = s

/-- Strings are no comparisons. -/
theorem Legible.isComparison_eq_false (h : Legible .text e) :
  e.isComparison = false
  := by
  cases h <;> rfl

/-- The word with which the text of an expression starts that is neither a column nor a
comparison. -/
def opening : Expr → List Char
  | .always => ['1', ' ']
  | .never => ['1', ' ']
  | .not _ => ['N', 'O', 'T', ' ']
  | .constant _ => [quoteMark]
  | _ => ['(']

/-- The expression is neither a column nor a comparison. -/
def hasOpening : Expr → Bool
  | .column _ => false
  | e => !e.isComparison

theorem Legible.exists_chars_eq (h : Legible k e) (he : e.hasOpening = true) :
  ∃ rest, e.chars = e.opening ++ rest
  := by
  have hnode : ∀ (o : Operator) (es : List Expr), 2 ≤ es.length
      → ∃ rest, (o.node es).chars = '(' :: rest := by
    intro o es hlength
    cases es with
    | nil => simp at hlength
    | cons e es =>
      have hchars := chars_node o e es []
      rw [List.append_nil] at hchars
      exact ⟨_, hchars⟩
  cases h with
  | always => exact ⟨_, rfl⟩
  | never => exact ⟨_, rfl⟩
  | constant s => exact ⟨_, chars_constant s⟩
  | concat _ hlength => apply hnode .concat _ hlength
  | and _ hlength => apply hnode .and _ hlength
  | or _ hlength => apply hnode .or _ hlength
  | @not e _ =>
    use '(' :: (e.chars ++ [')'])
    rw [chars_not]
    simp [opening]
  | column _ _ => cases he
  | equal _ _ => cases he
  | isNotNull _ => cases he

theorem opening_mem (e : Expr) :
  e.opening ∈ [['1', ' '], ['N', 'O', 'T', ' '], [quoteMark], ['(']]
  := by
  cases e <;> simp [opening]

/-- Texts that start with such words and are equal start with the same one. -/
theorem Legible.opening_eq (ha : Legible k a) (hb : Legible k' b) (hao : a.hasOpening = true)
    (hbo : b.hasOpening = true) (h : a.chars ++ r = b.chars ++ s) :
  a.opening = b.opening
  := by
  obtain ⟨_, hra⟩ := ha.exists_chars_eq hao
  obtain ⟨_, hrb⟩ := hb.exists_chars_eq hbo
  have hao := a.opening_mem
  have hbo := b.opening_mem
  rw [hra, hrb] at h
  generalize a.opening = w at *
  generalize b.opening = v at *
  simp only [List.mem_cons, List.not_mem_nil, or_false] at hao hbo
  obtain rfl | rfl | rfl | rfl := hao <;> obtain rfl | rfl | rfl | rfl := hbo <;>
    simp [quoteMark] at h ⊢

/-- A column is no text that starts with such a word. -/
theorem Legible.append_ne_of_column {c : Column} (hc : Legible .text (.column c))
    (h : Legible k e) (he : e.hasOpening = true) :
  (Expr.column c).chars ++ r ≠ e.chars ++ s
  := by
  cases hc with
  | column hparse hname =>
    obtain ⟨hdot, hchars⟩ := isNameChar_chars hparse hname
    obtain ⟨rest, hrest⟩ := h.exists_chars_eq he
    have hword : ∃ w a, e.opening = w ++ [a] ∧ '.' ∉ w ∧ isNameChar a = false := by
      have hmem := e.opening_mem
      generalize e.opening = v at hmem
      simp only [List.mem_cons, List.not_mem_nil, or_false] at hmem
      obtain rfl | rfl | rfl | rfl := hmem
      · exact ⟨['1'], ' ', rfl, by decide, by decide⟩
      · exact ⟨['N', 'O', 'T'], ' ', rfl, by decide, by decide⟩
      · exact ⟨[], quoteMark, rfl, by decide, by decide⟩
      · exact ⟨[], '(', rfl, by decide, by decide⟩
    obtain ⟨w, a, hw, hdot', ha⟩ := hword
    rw [hrest, hw, List.append_assoc, List.append_assoc]
    apply name_append_ne hdot hchars hdot' ha

theorem hasOpening_of_ne_column (hb : b.isComparison = false) (h : b.hasOpening = false) :
  ∃ c, b = .column c
  := by
  cases b with
  | column c => use c
  | _ => simp_all [hasOpening]

theorem foundAtStart_column {c : Column} (hc : Legible .text (.column c)) :
  FoundAtStart (.column c)
  := by
  intro k b r s hb hcomparison hr hs h
  cases hopening : b.hasOpening with
  | true => apply absurd h (hc.append_ne_of_column hb hopening)
  | false =>
    obtain ⟨d, rfl⟩ := hasOpening_of_ne_column hcomparison hopening
    cases hc with
    | column hc hname =>
      cases hb with
      | column hd hname' =>
        obtain ⟨heq, hrs⟩ := names_append_inj (isNameChar_chars hc hname).2
          (isNameChar_chars hd hname').2 hr hs h
        rw [Column.eq_of_render_eq (Column.parse_eq_ok_iff.1 hc).1 (Column.parse_eq_ok_iff.1 hd).1
          (String.toList_inj.1 heq)]
        use rfl

/-- An expression that is no column has to be told apart from those that start with the same word
only. -/
theorem foundAtStart_of_opening (ha : Legible k a) (hao : a.hasOpening = true)
    (hfound : ∀ {k b r s}, Legible k b → b.hasOpening = true → a.opening = b.opening → Stops r
      → Stops s → a.chars ++ r = b.chars ++ s → a = b ∧ r = s) :
  FoundAtStart a
  := by
  intro k b r s hb hcomparison hr hs h
  cases hopening : b.hasOpening with
  | true => apply hfound hb hopening (ha.opening_eq hb hao hopening h) hr hs h
  | false =>
    obtain ⟨d, rfl⟩ := hasOpening_of_ne_column hcomparison hopening
    cases hb with
    | column hd hname => apply absurd h.symm ((Legible.column hd hname).append_ne_of_column ha hao)

theorem Legible.eq_always_or_eq_never (h : Legible k e) (he : e.hasOpening = true)
    (hopening : e.opening = ['1', ' ']) :
  e = .always ∨ e = .never
  := by
  cases h with
  | always => exact .inl rfl
  | never => exact .inr rfl
  | column _ _ => cases he
  | equal _ _ => cases he
  | isNotNull _ => cases he
  | _ => simp [opening, quoteMark] at hopening

theorem foundAtStart_always :
  FoundAtStart .always
  := by
  apply foundAtStart_of_opening .always rfl
  intro k b r s hb hbo hopening _ _ h
  obtain rfl | rfl := hb.eq_always_or_eq_never hbo hopening.symm
  · exact ⟨rfl, List.append_cancel_left h⟩
  · simp [chars_always, chars_never] at h

theorem foundAtStart_never :
  FoundAtStart .never
  := by
  apply foundAtStart_of_opening .never rfl
  intro k b r s hb hbo hopening _ _ h
  obtain rfl | rfl := hb.eq_always_or_eq_never hbo hopening.symm
  · simp [chars_always, chars_never] at h
  · exact ⟨rfl, List.append_cancel_left h⟩

theorem foundAtStart_constant (v : String) :
  FoundAtStart (.constant v)
  := by
  apply foundAtStart_of_opening (.constant v) rfl
  intro k b r s hb _ hopening hr hs h
  cases hb with
  | constant w =>
    rw [chars_constant, chars_constant] at h
    simp only [List.cons_append, List.append_assoc, List.nil_append, List.cons.injEq, true_and] at h
    obtain ⟨heq, hrs⟩ := doubleQuotes_append_inj (head?_ne_quoteMark hr) (head?_ne_quoteMark hs) h
    rw [String.toList_inj.1 heq]
    use rfl
  | _ => simp [opening, quoteMark] at hopening

theorem foundAtStart_not (ha : Legible .condition a) (hfound : FoundAsOperand a) :
  FoundAtStart (.not a)
  := by
  apply foundAtStart_of_opening (.not ha) rfl
  intro k b r s hb _ hopening _ _ h
  cases hb with
  | @not b hb =>
    have hinner : a.chars ++ following .and [] r = b.chars ++ following .and [] s := by
      simpa [chars_not, following] using h
    obtain ⟨rfl, hrs⟩ := hfound hb (ends_following _ _ _) (ends_following _ _ _) hinner
    use rfl
    apply (List.cons.inj hrs).2
  | _ => simp [opening, quoteMark] at hopening

/-- Operators that are followed by the same text are the same. -/
theorem separator_append_inj {o o' : Operator} (h : o.separator ++ r = o'.separator ++ s) :
  o = o' ∧ r = s
  := by
  cases o <;> cases o' <;> simp [Operator.separator] at h ⊢ <;> exact h

/-- The operands of an operator are found one after the other. -/
theorem following_inj {o o' : Operator} (hes : ∀ e ∈ es, FoundAsOperand e)
    (hfs : ∀ f ∈ fs, Legible k f) (h : following o es r = following o' fs s) :
  es = fs ∧ r = s ∧ (es ≠ [] → o = o')
  := by
  induction es generalizing fs with
  | nil =>
    cases fs with
    | nil =>
      use rfl, (List.cons.inj h).2
      intro hne
      apply absurd rfl hne
    | cons f fs => cases o' <;> simp [following, Operator.separator] at h
  | cons e es ih =>
    cases fs with
    | nil => cases o <;> simp [following, Operator.separator] at h
    | cons f fs =>
      rw [List.forall_mem_cons] at hes hfs
      rw [following_cons, following_cons] at h
      obtain ⟨rfl, hoperands⟩ := separator_append_inj h
      obtain ⟨rfl, hrest⟩ := hes.1 hfs.1 (ends_following _ _ _) (ends_following _ _ _) hoperands
      obtain ⟨rfl, hrs, -⟩ := ih hes.2 hfs.2 hrest
      exact ⟨rfl, hrs, fun _ => rfl⟩

/-- What starts with a parenthesis is an operator with its operands. -/
theorem Legible.exists_node (h : Legible k e) (he : e.hasOpening = true)
    (hopening : e.opening = ['(']) :
  ∃ o es k', e = Operator.node o es ∧ 2 ≤ es.length ∧ ∀ e ∈ es, Legible k' e
  := by
  cases h with
  | concat h hlength => exact ⟨.concat, _, _, rfl, hlength, h⟩
  | and h hlength => exact ⟨.and, _, _, rfl, hlength, h⟩
  | or h hlength => exact ⟨.or, _, _, rfl, hlength, h⟩
  | column _ _ => cases he
  | equal _ _ => cases he
  | isNotNull _ => cases he
  | _ => simp [opening, quoteMark] at hopening

theorem foundAtStart_node (o : Operator) (h : Legible k (o.node es)) (hlength : 2 ≤ es.length)
    (hfound : ∀ e ∈ es, FoundAsOperand e) :
  FoundAtStart (o.node es)
  := by
  have hopening : (o.node es).opening = ['('] ∧ (o.node es).hasOpening = true := by
    cases o <;> exact ⟨rfl, rfl⟩
  apply foundAtStart_of_opening h hopening.2
  intro k' b r s hb hbo hopening' _ _ heq
  rw [hopening.1] at hopening'
  obtain ⟨o', fs, k', rfl, hlength', hfs⟩ := hb.exists_node hbo hopening'.symm
  obtain _ | ⟨e, es⟩ := es
  · simp at hlength
  obtain _ | ⟨f, fs⟩ := fs
  · simp at hlength'
  rw [List.forall_mem_cons] at hfound hfs
  rw [chars_node, chars_node] at heq
  obtain ⟨rfl, hrest⟩ := hfound.1 hfs.1 (ends_following _ _ _) (ends_following _ _ _)
    (List.cons.inj heq).2
  obtain ⟨rfl, hrs, ho⟩ := following_inj hfound.2 hfs.2 hrest
  have hne : es ≠ [] := by
    rintro rfl
    simp at hlength
  rw [ho hne]
  exact ⟨rfl, hrs⟩

/-! ### Comparisons -/

/-- What a comparison is about: its left side. -/
def subject : Expr → Expr
  | .equal a _ => a
  | .isNotNull a => a
  | e => e

/-- What a comparison says about its left side. -/
def comparison : Expr → List Char
  | .equal _ b => [' ', '=', ' '] ++ b.chars
  | .isNotNull _ => [' ', 'I', 'S', ' ', 'N', 'O', 'T', ' ', 'N', 'U', 'L', 'L']
  | _ => []

theorem chars_eq_subject_append (e : Expr) :
  e.chars = e.subject.chars ++ e.comparison
  := by
  cases e with
  | equal a b => rw [chars_equal, List.append_assoc, subject, comparison]
  | isNotNull e => rw [chars_isNotNull, subject, comparison]
  | _ => apply (List.append_nil _).symm

theorem eq_self_of_isComparison_eq_false (h : e.isComparison = false) :
  e.subject = e ∧ e.comparison = []
  := by
  cases e with
  | equal _ _ => cases h
  | isNotNull _ => cases h
  | _ => exact ⟨rfl, rfl⟩

theorem Legible.subject (h : Legible k e) :
  ∃ k', Legible k' e.subject ∧ e.subject.isComparison = false
  := by
  cases hcomparison : e.isComparison with
  | false =>
    rw [(eq_self_of_isComparison_eq_false hcomparison).1]
    use k
  | true =>
    cases h with
    | equal ha hb => exact ⟨.text, ha, ha.isComparison_eq_false⟩
    | isNotNull h => exact ⟨.text, h, h.isComparison_eq_false⟩
    | _ => cases hcomparison

theorem stops_comparison (e : Expr) (h : Stops r) :
  Stops (e.comparison ++ r)
  := by
  cases e with
  | equal _ _ => simp [Stops, comparison]
  | isNotNull _ => simp [Stops, comparison]
  | _ => exact h

/-- No comparison follows an operand. -/
theorem not_ends_comparison (h : e.isComparison = true) :
  ¬ Ends (e.comparison ++ r)
  := by
  cases e with
  | equal _ _ => simp [Ends, comparison]
  | isNotNull _ => simp [Ends, comparison]
  | _ => cases h

/-- An operand is found from its left side, since no comparison follows it. -/
theorem foundAsOperand (hsubject : FoundAtStart a.subject)
    (hright : ∀ x y, a = .equal x y → FoundAtStart y) :
  FoundAsOperand a
  := by
  intro k b r s hb hr hs heq
  obtain ⟨_, hb', hbc'⟩ := hb.subject
  rw [chars_eq_subject_append a, chars_eq_subject_append b, List.append_assoc,
    List.append_assoc] at heq
  obtain ⟨hsame, hrest⟩ := hsubject hb' hbc' (stops_comparison a hr.1) (stops_comparison b hs.1) heq
  cases hac : a.isComparison with
  | false =>
    obtain ⟨ha, hanil⟩ := eq_self_of_isComparison_eq_false hac
    cases hbc : b.isComparison with
    | false =>
      obtain ⟨hb, hbnil⟩ := eq_self_of_isComparison_eq_false hbc
      rw [ha, hb] at hsame
      rw [hanil, hbnil] at hrest
      exact ⟨hsame, hrest⟩
    | true =>
      rw [hanil, List.nil_append] at hrest
      rw [hrest] at hr
      apply absurd hr (not_ends_comparison hbc)
  | true =>
    cases hbc : b.isComparison with
    | false =>
      rw [(eq_self_of_isComparison_eq_false hbc).2, List.nil_append] at hrest
      rw [← hrest] at hs
      apply absurd hs (not_ends_comparison hac)
    | true =>
      cases a with
      | equal x y =>
        cases hb with
        | equal _ hy =>
          obtain ⟨rfl, hrs⟩ := hright x y rfl hy hy.isComparison_eq_false hr.1 hs.1
            (by simpa [comparison] using hrest)
          cases hsame
          exact ⟨rfl, hrs⟩
        | isNotNull _ => simp [comparison] at hrest
        | _ => cases hbc
      | isNotNull x =>
        cases hb with
        | equal _ _ => simp [comparison] at hrest
        | isNotNull _ =>
          cases hsame
          exact ⟨rfl, List.append_cancel_left hrest⟩
        | _ => cases hbc
      | _ => cases hac

/-- Every legible expression is found in its text. -/
theorem Legible.found (h : Legible k e) :
  FoundAtStart e.subject ∧ FoundAsOperand e
  := by
  -- Only in comparisons does the subject differ from the expression, and there it is a string, whose
  -- own subject it is.
  have hwhole : ∀ {e : Expr}, e.isComparison = false → FoundAtStart e
      → FoundAtStart e.subject ∧ FoundAsOperand e := by
    intro e he hfound
    have hsubject : FoundAtStart e.subject := by
      rwa [(eq_self_of_isComparison_eq_false he).1]
    use hsubject
    apply foundAsOperand hsubject
    rintro x y rfl
    cases he
  have hstring : ∀ {e : Expr}, Legible .text e → FoundAtStart e.subject → FoundAtStart e := by
    intro e he hfound
    rwa [(eq_self_of_isComparison_eq_false he.isComparison_eq_false).1] at hfound
  induction h with
  | always => apply hwhole rfl foundAtStart_always
  | never => apply hwhole rfl foundAtStart_never
  | column h hname => apply hwhole rfl (foundAtStart_column (.column h hname))
  | constant s => apply hwhole rfl (foundAtStart_constant s)
  | concat h hlength ih =>
    apply hwhole rfl
    apply foundAtStart_node .concat (.concat h hlength) hlength
    intro e he
    apply (ih e he).2
  | and h hlength ih =>
    apply hwhole rfl
    apply foundAtStart_node .and (.and h hlength) hlength
    intro e he
    apply (ih e he).2
  | or h hlength ih =>
    apply hwhole rfl
    apply foundAtStart_node .or (.or h hlength) hlength
    intro e he
    apply (ih e he).2
  | not h ih => apply hwhole rfl (foundAtStart_not h ih.2)
  | @equal a b ha hb iha ihb =>
    have hleft : FoundAtStart (Expr.equal a b).subject := hstring ha iha.1
    use hleft
    apply foundAsOperand hleft
    rintro x y ⟨⟩
    apply hstring hb ihb.1
  | @isNotNull e h ih =>
    have hleft : FoundAtStart (Expr.isNotNull e).subject := hstring h ih.1
    use hleft
    apply foundAsOperand hleft
    rintro x y ⟨⟩

end Expr

end RelGraph.Sql
