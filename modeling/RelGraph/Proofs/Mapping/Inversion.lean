import RelGraph.Proofs.Mapping.Occurrences

/-!
# Reading back texts and terms

The condition for a text undoes the writing of the text: it evaluates to true only on rows that give
the text, and on all of those from whose text the values can be told.  The texts of a term undo the
reading of texts: they are the texts that stand for the term, and there is at most one of them in an
injective kind.
-/

namespace RelGraph.Mapping

open Rdf Sql

/-! ### Rows that give a text -/

namespace ValueMap

theorem isTrueOn_columnIs {c : Column} {value : String} {row : Row} :
  (Expr.columnIs c value).isTrueOn row.cells = true ↔ row.get? c = some value
  := by
  cases hcell : List.lookup c row.cells with
  | some cell =>
    have hhas : Env.Has row.cells [c] := by
      intro d hd
      rw [List.mem_singleton.1 hd, hcell]
      rfl
    rw [Expr.isTrueOn_of_readsOnly (Expr.isCondition_columnIs c value)
      (Expr.readsOnly_columnIs (List.mem_singleton.2 rfl) value) hhas]
    apply Expr.truthOn_columnIs_eq_true
  | none =>
    -- a column that the row does not have makes the evaluation fail
    have herror : (Expr.columnIs c value).eval row.cells = .error (.unknownColumn c) := by
      have hne : Expr.column c ≠ Expr.constant value := by simp
      have hlookup : Env.lookup row.cells c = .error (.unknownColumn c) := by
        rw [Env.lookup, hcell]
      simp only [Expr.columnIs, Expr.equalOf, if_neg hne]
      split <;> rw [Expr.eval, Expr.eval, Expr.eval, hlookup] <;> rfl
    simp [Expr.isTrueOn_iff, herror, Row.get?, hcell]

/-- The condition for a text evaluates to true exactly where it is true, also if the row does not
have all columns. -/
theorem isTrueOn_conditionFor {v : ValueMap} {text : String} {row : Row} :
  (v.conditionFor text).isTrueOn row.cells = true
    ↔ Expr.truthOn row (v.conditionFor text) = some true
  := by
  obtain hnever | ⟨values, -, heq⟩ := conditionFor_cases v text
  · rw [hnever]
    simp [Expr.isTrueOn, Expr.eval]
  · rw [heq, columnsAre, Expr.isTrueOn_andAll, Expr.truthOn_andAll_eq_true]
    apply forall₂_congr
    intro e he
    obtain ⟨c, -, value, rfl⟩ := mem_zipWith_columnIs he
    rw [isTrueOn_columnIs, Expr.truthOn_columnIs_eq_true]

/-- The condition for a text evaluates to true only on rows that give the text, and on all of them
whose text can be cut in one way only. -/
theorem conditionFor_inverts_fill (v : ValueMap) (text : String) (row : Row) :
  ((v.conditionFor text).isTrueOn row.cells = true → v.fill? row = some text)
    ∧ (v.fill? row = some text → v.Unambiguous row
      → (v.conditionFor text).isTrueOn row.cells = true)
  := by
  constructor
  · intro h
    apply fill?_of_truthOn_conditionFor (isTrueOn_conditionFor.1 h)
  · intro h hv
    apply isTrueOn_conditionFor.2 (truthOn_conditionFor_of_fill? hv h)

/-- A path with a name in two writings. -/
def namePath : ValueMap :=
  .template ⟨"ex:", [⟨⟨⟨none, "people"⟩, "name"⟩, .urlify, "/"⟩,
    ⟨⟨⟨none, "people"⟩, "name"⟩, .plain, ""⟩]⟩

/-- A person with a name. -/
def nameRow : Row := ⟨[(⟨⟨none, "people"⟩, "name"⟩, some "A B")]⟩

theorem fill?_namePath :
  namePath.fill? nameRow = some "ex:A_B/A B"
  := by
  decide

theorem unambiguous_namePath :
  namePath.Unambiguous nameRow
  := by
  intro text htext
  obtain rfl : "ex:A_B/A B" = text := Option.some.inj (fill?_namePath.symm.trans htext)
  apply Template.cutsOnce_pair '/' "A_B".toList "A B".toList <;> decide

theorem conditionFor_inverts_fill_namePath :
  namePath.fill? nameRow = some "ex:A_B/A B" ∧ namePath.Unambiguous nameRow
    ∧ (namePath.conditionFor "ex:A_B/A B").isTrueOn nameRow.cells = true
  := by
  use fill?_namePath, unambiguous_namePath
  apply (conditionFor_inverts_fill _ _ _).2 fill?_namePath unambiguous_namePath

end ValueMap

/-! ### Texts of a term -/

namespace TermKind

/-- The texts of a term are those that stand for it, and different texts of an injective kind stand
for different terms. -/
theorem textsOf_inverts_make (k : TermKind) (hk : k.LowerCase) :
  (∀ t text, text ∈ k.textsOf t ↔ k.make? text = some t)
    ∧ (k.isInjective = true → ∀ a b t, a ≠ b → k.make? a = some t → k.make? b ≠ some t)
  := by
  constructor
  · intro t text
    apply mem_textsOf_iff hk
  · intro hinjective a b t hne ha hb
    apply hne (eq_of_isInjective hinjective ha hb)

/-- A word of a language, the tag of which is given in upper case. -/
theorem textsOf_inverts_make_english :
  (ofLanguage "EN").LowerCase ∧ (ofLanguage "EN").isInjective = true
    ∧ "chat" ∈ (ofLanguage "EN").textsOf (.literal (.tagged "chat" "en"))
    ∧ (ofLanguage "EN").make? "Chat" ≠ some (.literal (.tagged "chat" "en"))
  := by
  have hlower : (ofLanguage "EN").LowerCase := by
    rw [ofLanguage, LowerCase]
    decide
  have hmake : (ofLanguage "EN").make? "chat" = some (.literal (.tagged "chat" "en")) := by
    decide
  obtain ⟨htexts, hinjective⟩ := textsOf_inverts_make (ofLanguage "EN") hlower
  use hlower, rfl, (htexts _ _).2 hmake
  apply hinjective rfl "chat" "Chat" _ (by decide) hmake

end TermKind

end RelGraph.Mapping
