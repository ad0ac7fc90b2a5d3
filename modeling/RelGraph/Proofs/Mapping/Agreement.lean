import RelGraph.Mapping.Agreement
import RelGraph.Proofs.Mapping.Shape
import RelGraph.Proofs.Sql.Answer

/-!
# Agreement of term maps

What the verdict on the occurrences of a variable means.  Where its condition is true, the term maps
give the same term as soon as one of them gives a term.  Conversely, where they all give the same
term the verdict is not that they never do, and its condition is true, provided that the texts can
be cut in one way only and texts of different shapes give different terms.
-/

namespace RelGraph.Mapping

open Rdf Sql

namespace ValueMap

/-! ### Columns at the same places -/

/-- The columns at the same places are equal. -/
def pairwiseEqual (cs ds : List Column) : Expr :=
  Expr.andAll (cs.zipWith Expr.columnsEqual ds)

section

variable {row : Row} {cs ds : List Column}

theorem get?_eq_of_columnsEqual {c d : Column}
    (h : Expr.truthOn row (Expr.columnsEqual c d) = some true) :
  row.get? c = row.get? d
  := by
  by_cases hcd : c = d
  · rw [hcd]
  · rw [Expr.columnsEqual, Expr.truthOn_equalOf row rfl rfl (by simpa using hcd)] at h
    simp only [Expr.textOn, Expr.valueOn, Value.asText] at h
    cases hc : row.get? c <;> cases hd : row.get? d <;> simp_all [sameIfKnown]

/-- Columns that are equal have the same cells. -/
theorem aligned_of_pairwiseEqual (hlength : cs.length = ds.length)
    (h : Expr.truthOn row (pairwiseEqual cs ds) = some true) :
  Aligned row row cs ds
  := by
  rw [pairwiseEqual, Expr.truthOn_andAll_eq_true] at h
  induction cs generalizing ds with
  | nil =>
    cases ds with
    | nil => apply List.Forall₂.nil
    | cons => simp at hlength
  | cons c cs ih =>
    cases ds with
    | nil => simp at hlength
    | cons d ds =>
      rw [List.zipWith_cons_cons, List.forall_mem_cons] at h
      apply List.forall₂_cons.2
      use get?_eq_of_columnsEqual h.1, ih (by simpa using hlength) h.2

theorem pairwiseEqual_of_texts
    (h : List.Forall₂ (fun c d => ∃ s, row.get? c = some s ∧ row.get? d = some s) cs ds) :
  Expr.truthOn row (pairwiseEqual cs ds) = some true
  := by
  rw [pairwiseEqual, Expr.truthOn_andAll_eq_true]
  induction h with
  | nil => simp
  | cons hc _ ih =>
    rw [List.zipWith_cons_cons, List.forall_mem_cons]
    obtain ⟨s, hs, hs'⟩ := hc
    constructor
    · rw [Expr.truthOn_columnsEqual hs hs']
      simp
    · apply ih

theorem mem_zipWith_columnsEqual {e : Expr} (h : e ∈ cs.zipWith Expr.columnsEqual ds) :
  ∃ c ∈ cs, ∃ d ∈ ds, e = Expr.columnsEqual c d
  := by
  obtain ⟨i, hi, rfl⟩ := List.mem_iff_getElem.1 h
  rw [List.length_zipWith, Nat.lt_min] at hi
  rw [List.getElem_zipWith]
  use cs[i], List.getElem_mem hi.1, ds[i], List.getElem_mem hi.2

theorem isCondition_pairwiseEqual (cs ds : List Column) :
  (pairwiseEqual cs ds).isCondition = true
  := by
  apply Expr.isCondition_andAll
  intro e he
  obtain ⟨c, -, d, -, rfl⟩ := mem_zipWith_columnsEqual he
  apply Expr.isCondition_columnsEqual

theorem readsOnly_pairwiseEqual (cs ds : List Column) :
  Expr.ReadsOnly (cs ++ ds) (pairwiseEqual cs ds)
  := by
  apply Expr.readsOnly_andAll
  intro e he
  obtain ⟨c, hc, d, hd, rfl⟩ := mem_zipWith_columnsEqual he
  apply Expr.readsOnly_columnsEqual
  · apply List.mem_append_left _ hc
  · apply List.mem_append_right _ hd

theorem pairwiseEqual_ne_never (cs ds : List Column) :
  pairwiseEqual cs ds ≠ .never
  := by
  intro h
  -- on a row in which all cells are the same, all columns are equal
  have htrue : Expr.truthOn (Row.sample (cs ++ ds) fun _ => some "") (pairwiseEqual cs ds)
      = some true := by
    rw [pairwiseEqual, Expr.truthOn_andAll_eq_true]
    intro e he
    obtain ⟨c, hc, d, hd, rfl⟩ := mem_zipWith_columnsEqual he
    rw [Expr.truthOn_columnsEqual (get?_sample_of_mem _ (by simp [hc]))
      (get?_sample_of_mem _ (by simp [hd]))]
    simp
  rw [h, Expr.truthOn_never] at htrue
  cases htrue

/-- Two different columns at the same place are mentioned. -/
theorem mem_columnList_pairwiseEqual {i : Nat} (hc : i < cs.length) (hd : i < ds.length)
    (hne : cs[i] ≠ ds[i]) :
  cs[i] ∈ (pairwiseEqual cs ds).columnList ∧ ds[i] ∈ (pairwiseEqual cs ds).columnList
  := by
  have hi : i < (cs.zipWith Expr.columnsEqual ds).length := by
    rw [List.length_zipWith, Nat.lt_min]
    use hc
  have hmem := List.getElem_mem hi
  rw [List.getElem_zipWith] at hmem
  have hmention : cs[i] ∈ (Expr.columnsEqual cs[i] ds[i]).columnList
      ∧ ds[i] ∈ (Expr.columnsEqual cs[i] ds[i]).columnList := by
    simp only [Expr.columnsEqual, Expr.equalOf, Expr.column.injEq, if_neg hne]
    split <;> simp [Expr.columnList]
  have hnever : Expr.never ∉ cs.zipWith Expr.columnsEqual ds :=
    Expr.never_notMem_of_andAll_ne (pairwiseEqual_ne_never cs ds)
  rw [pairwiseEqual, Expr.mem_columnList_andAll hnever, Expr.mem_columnList_andAll hnever]
  constructor
  · exact ⟨_, hmem, hmention.1⟩
  · exact ⟨_, hmem, hmention.2⟩

end

/-! ### Agreement of two value maps -/

theorem pairwiseEqual_singleton (c d : Column) :
  pairwiseEqual [c] [d] = Expr.columnsEqual c d
  := by
  by_cases h : c = d
  · simp [h, pairwiseEqual, Expr.columnsEqual, Expr.equalOf, Expr.andAll, Expr.conjuncts, canonical]
  · simp only [pairwiseEqual, List.zipWith_cons_cons, List.zipWith_nil_left, Expr.columnsEqual,
      Expr.equalOf, Expr.column.injEq, if_neg h]
    split <;> simp [Expr.andAll, Expr.conjuncts, canonical, place]

theorem agreement_of_sameShape {v w : ValueMap} (h : v.sameShape w = true) :
  v.agreement w = pairwiseEqual v.columns w.columns
  := by
  cases v <;> cases w <;> simp only [sameShape, Bool.false_eq_true] at h
  · apply (pairwiseEqual_singleton _ _).symm
  · rw [agreement, if_pos h]
    rfl
  · rw [agreement, if_pos h]
    rfl

theorem agreement_of_not_sameShape {v w : ValueMap} (h : v.sameShape w = false) :
  v.agreement w = .never
  := by
  cases v <;> cases w <;> simp_all [sameShape, agreement]

/-- Value maps agree on a condition only if they have the same shape. -/
theorem sameShape_of_agreement {v w : ValueMap} (h : v.agreement w ≠ .never) :
  v.sameShape w = true
  := by
  by_contra hshape
  apply h (agreement_of_not_sameShape (by simpa using hshape))

theorem fill?_eq_of_agreement {v w : ValueMap} {row : Row}
    (h : Expr.truthOn row (v.agreement w) = some true) :
  v.fill? row = w.fill? row
  := by
  have hshape : v.sameShape w = true := by
    apply sameShape_of_agreement
    intro hnever
    rw [hnever] at h
    cases h
  rw [agreement_of_sameShape hshape] at h
  apply fill?_eq_of_aligned hshape
  apply aligned_of_pairwiseEqual (length_columns_of_sameShape hshape) h

/-- The values that fill the places are the only ones that give the text. -/
theorem forall₂_of_filled {row : Row} {ss ss' : List Slot} {vs : List (List Char)}
    (hencoding : ss.map Slot.encoding = ss'.map Slot.encoding)
    (h : List.Forall₂ (Template.Filled row) ss vs)
    (h' : List.Forall₂ (Template.Filled row) ss' vs) :
  List.Forall₂ (fun c d => ∃ s, row.get? c = some s ∧ row.get? d = some s) (ss.map Slot.column)
    (ss'.map Slot.column)
  := by
  induction h generalizing ss' with
  | nil =>
    cases h'
    apply List.Forall₂.nil
  | @cons s v ss vs hs _ ih =>
    cases h' with
    | @cons s' _ ss' _ hs' h' =>
      simp only [List.map_cons, List.cons.injEq] at hencoding
      obtain ⟨value, hvalue, hv⟩ := hs
      obtain ⟨value', hvalue', hv'⟩ := hs'
      have heq : value = value' := by
        apply s.encoding.encode_injective
        apply String.toList_injective
        rw [hv, hencoding.1, hv']
      subst heq
      apply List.forall₂_cons.2
      use ⟨value, hvalue, hvalue'⟩, ih hencoding.2 h'

theorem forall₂_of_haveTexts {row : Row} {cs ds : List Column} {values : List String}
    (h : BlankKey.HaveTexts row cs values) (h' : BlankKey.HaveTexts row ds values) :
  List.Forall₂ (fun c d => ∃ s, row.get? c = some s ∧ row.get? d = some s) cs ds
  := by
  induction h generalizing ds with
  | nil =>
    cases h'
    apply List.Forall₂.nil
  | @cons c value cs values hc _ ih =>
    cases h' with
    | cons hd h' =>
      apply List.forall₂_cons.2
      use ⟨value, hc, hd⟩, ih h'

/-- Value maps of one shape that give the same text agree. -/
theorem truthOn_agreement {v w : ValueMap} (h : v.sameShape w = true) {row : Row}
    (hv : v.Unambiguous row) (hw : w.Unambiguous row) {text : String}
    (hfill : v.fill? row = some text) (hfill' : w.fill? row = some text) :
  Expr.truthOn row (v.agreement w) = some true
  := by
  rw [agreement_of_sameShape h]
  apply pairwiseEqual_of_texts
  obtain ⟨a, b, rfl, rfl⟩ | ⟨t, u, rfl, rfl, hhead, htext, hencoding⟩
    | ⟨k, l, rfl, rfl, hclass, hlength⟩ := sameShape_cases h
  · apply List.forall₂_cons.2
    use ⟨text, hfill, hfill'⟩, List.Forall₂.nil
  · obtain ⟨vs, hcuts, hvs⟩ := Template.fill?_eq_some_iff.1 hfill
    obtain ⟨ws, hcuts', hws⟩ := Template.fill?_eq_some_iff.1 hfill'
    have heq : vs = ws := hv text hfill vs ws hcuts ((cuts_iff hhead htext).2 hcuts')
    subst heq
    apply forall₂_of_filled hencoding hvs hws
  · obtain ⟨values, hvalues, heq⟩ := BlankKey.fill?_eq_some_iff.1 hfill
    obtain ⟨values', hvalues', heq'⟩ := BlankKey.fill?_eq_some_iff.1 hfill'
    have hsplit := BlankKey.Unmarked.splitMarks_eq hv hvalues heq
    rw [BlankKey.Unmarked.splitMarks_eq hw hvalues' heq', List.cons.injEq] at hsplit
    have hsame : values' = values :=
      List.map_injective_iff.2 (fun _ _ h => String.toList_injective h) hsplit.2
    subst hsame
    apply forall₂_of_haveTexts hvalues hvalues'

end ValueMap

end RelGraph.Mapping
