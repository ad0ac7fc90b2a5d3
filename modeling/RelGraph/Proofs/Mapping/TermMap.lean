import RelGraph.Mapping.TermMap
import RelGraph.Proofs.Mapping.ValueMap
import RelGraph.Proofs.Rdf.BlankLabel
import RelGraph.Proofs.Xsd.DateTime

/-!
# Conditions of term maps

The texts of a term are exactly those that stand for it, provided that the language of the kind is
in lower case.  So the condition for a term is true only on rows that give the term, and on all of
those on which the term map is unambiguous.
-/

namespace RelGraph.Mapping

open Rdf Sql

variable {k : TermKind} {m : TermMap} {t : Term} {row : Row}

namespace TermKind

/-- The language of the kind, if it has one, is in lower case. -/
def LowerCase : TermKind → Prop
  | .literal _ (some language) => Text.asciiLower language = language
  | _ => True

theorem datatype_ofDatatype (value : String) (datatype : Iri) :
  (Literal.ofDatatype value datatype).datatype = datatype
  := by
  rw [Literal.ofDatatype]
  split
  · rename_i h
    rw [h]
    rfl
  · rfl

theorem value_ofDatatype (value : String) (datatype : Iri) :
  (Literal.ofDatatype value datatype).value = value
  := by
  rw [Literal.ofDatatype]
  split <;> rfl

theorem language?_ofDatatype (value : String) (datatype : Iri) :
  (Literal.ofDatatype value datatype).language? = none
  := by
  rw [Literal.ofDatatype]
  split <;> rfl

/-- A text is the lexical form that it stands for, unless this is a truth value or a point in
time. -/
theorem lexicalForm?_eq {datatype : Iri} {text form : String}
    (h : lexicalForm? datatype text = some form) :
  (datatype = Datatype.boolean
      ∧ ((form = "true" ∧ (text = "true" ∨ text = "1"))
        ∨ (form = "false" ∧ (text = "false" ∨ text = "0"))))
    ∨ (datatype ≠ Datatype.boolean ∧ datatype = Datatype.dateTime
      ∧ (text = form ∨ text = String.ofList (Text.replaceFirst 'T' ' ' form.toList)))
    ∨ (datatype ≠ Datatype.boolean ∧ datatype ≠ Datatype.dateTime ∧ text = form)
  := by
  unfold lexicalForm? at h
  split at h
  · rename_i hb
    left
    use hb
    split at h
    · rename_i htext
      left
      simp only [Bool.or_eq_true, decide_eq_true_eq] at htext
      cases h
      use rfl
    · split at h
      · rename_i htext
        right
        simp only [Bool.or_eq_true, decide_eq_true_eq] at htext
        cases h
        use rfl
      · cases h
  · rename_i hb
    right
    split at h
    · rename_i hd
      left
      use hb, hd
      simp only [Option.ite_none_right_eq_some, Option.some.injEq] at h
      obtain ⟨hsome, rfl⟩ := h
      apply Xsd.DateTime.eq_of_replaceFirst rfl hsome
    · rename_i hd
      right
      use hb, hd
      split at h
      · simp only [Option.ite_none_right_eq_some, Option.some.injEq] at h
        apply h.2
      · split at h
        · simp only [Option.ite_none_right_eq_some, Option.some.injEq] at h
          apply h.2
        · split at h
          · simp only [Option.ite_none_right_eq_some, Option.some.injEq] at h
            apply h.2
          · split at h
            · simp only [Option.ite_none_right_eq_some, Option.some.injEq] at h
              apply h.2
            · cases h
              rfl

/-- A text that stands for a term is one of its candidates. -/
theorem mem_candidates_of_make? (hk : k.LowerCase) {text : String} (h : k.make? text = some t) :
  text ∈ k.candidates t
  := by
  cases k with
  | iri =>
    obtain ⟨i, hi, rfl⟩ := Option.map_eq_some_iff.1 h
    simp only [Iri.parse?, Option.ite_none_right_eq_some, Option.some.injEq] at hi
    rw [← hi.2]
    simp [candidates, accepts]
  | blank =>
    obtain ⟨b, hb, rfl⟩ := Option.map_eq_some_iff.1 h
    simp only [BlankNode.parse?, Option.ite_none_right_eq_some, Option.some.injEq] at hb
    rw [← hb.2]
    simp [candidates, accepts, unescapeLabel?_escapeLabel]
  | literal datatype language =>
    cases language with
    | some language =>
      simp only [make?, Option.ite_none_right_eq_some, Option.map_eq_some_iff] at h
      obtain ⟨rfl, tag, htag, rfl⟩ := h
      simp only [languageTag?, Option.ite_none_right_eq_some, Option.some.injEq] at htag
      have hlower : Text.asciiLower language = language := hk
      rw [hlower] at htag
      rw [← htag.2]
      have hb : Datatype.langString ≠ Datatype.boolean := by decide
      have hd : Datatype.langString ≠ Datatype.dateTime := by decide
      simp [candidates, accepts, Literal.datatype, Literal.language?, Literal.value, hb, hd]
    | none =>
      obtain ⟨form, hform, rfl⟩ := Option.map_eq_some_iff.1 h
      have haccepts : accepts (.literal datatype none)
          (.literal (.ofDatatype form datatype)) = true := by
        simp [accepts, datatype_ofDatatype, language?_ofDatatype]
      simp only [candidates, haccepts, Bool.not_true, Bool.false_eq_true, if_false,
        datatype_ofDatatype, value_ofDatatype]
      obtain ⟨hd, hb⟩ | ⟨hnb, hd, htext⟩ | ⟨hnb, hnd, htext⟩ := lexicalForm?_eq hform
      · rw [if_pos hd]
        obtain ⟨rfl, rfl | rfl⟩ | ⟨rfl, rfl | rfl⟩ := hb <;> simp
      · rw [if_neg hnb, if_pos hd]
        obtain rfl | rfl := htext <;> simp
      · rw [if_neg hnb, if_neg hnd]
        simp [htext]

theorem make?_of_mem_textsOf {text : String} (h : text ∈ k.textsOf t) :
  k.make? text = some t
  := by
  rw [textsOf, List.mem_filter] at h
  simpa using h.2

/-- The texts of a term are those that stand for it. -/
theorem mem_textsOf_iff (hk : k.LowerCase) {text : String} :
  text ∈ k.textsOf t ↔ k.make? text = some t
  := by
  constructor
  · apply make?_of_mem_textsOf
  · intro h
    rw [textsOf, List.mem_filter]
    use mem_candidates_of_make? hk h
    simpa using h

/-- In an injective kind there is at most one text for a term. -/
theorem eq_of_mem_textsOf (hk : k.isInjective = true) {a b : String} (ha : a ∈ k.textsOf t)
    (hb : b ∈ k.textsOf t) :
  a = b
  := by
  have hone : (k.candidates t).length ≤ 1 := by
    unfold candidates
    split
    · simp
    · rename_i haccepts
      split
      · simp
      · cases unescapeLabel? _ <;> simp
      · simp
      · rename_i l
        cases k with
        | iri => simp [accepts] at haccepts
        | blank => simp [accepts] at haccepts
        | literal datatype language =>
          simp only [accepts, Bool.not_eq_true, Bool.not_eq_false', Bool.and_eq_true,
            decide_eq_true_eq] at haccepts
          simp only [isInjective, Bool.and_eq_true, decide_eq_true_eq] at hk
          rw [haccepts.1, if_neg hk.1, if_neg hk.2]
          simp
  rw [textsOf, List.mem_filter] at ha hb
  match hc : k.candidates t with
  | [] => simp [hc] at ha
  | [x] =>
    rw [hc, List.mem_singleton] at ha hb
    rw [ha.1, hb.1]
  | x :: y :: rest => simp [hc] at hone

end TermKind

namespace TermMap

/-! ### Conditions -/

theorem isCondition_conditionFor (m : TermMap) (t : Term) :
  (m.conditionFor t).isCondition = true
  := by
  cases m with
  | fixed t' => apply Expr.isCondition_ofBool
  | typed kind value =>
    apply Expr.isCondition_orAll
    intro e he
    obtain ⟨text, -, rfl⟩ := List.mem_map.1 he
    apply ValueMap.isCondition_conditionFor

theorem readsOnly_conditionFor (m : TermMap) (t : Term) :
  Expr.ReadsOnly m.columns (m.conditionFor t)
  := by
  cases m with
  | fixed t' => apply Expr.readsOnly_ofBool
  | typed kind value =>
    apply Expr.readsOnly_orAll
    intro e he
    obtain ⟨text, -, rfl⟩ := List.mem_map.1 he
    apply ValueMap.readsOnly_conditionFor

/-- Where all columns have a text, the condition is known. -/
theorem known_conditionFor (h : ∀ c ∈ m.columns, (row.get? c).isSome) (t : Term) :
  Expr.Known row (m.conditionFor t)
  := by
  cases m with
  | fixed t' => apply Expr.known_ofBool
  | typed kind value =>
    apply Expr.known_orAll
    intro e he
    obtain ⟨text, -, rfl⟩ := List.mem_map.1 he
    apply ValueMap.known_conditionFor h

/-- The condition mentions all columns of the term map, unless it is never true. -/
theorem mem_columnList_conditionFor (h : m.conditionFor t ≠ .never) {c : Column}
    (hc : c ∈ m.columns) :
  c ∈ (m.conditionFor t).columnList
  := by
  cases m with
  | fixed t' => simp [columns] at hc
  | typed kind value =>
    have halways : Expr.always ∉ (kind.textsOf t).map value.conditionFor := by
      intro hmem
      obtain ⟨text, -, htext⟩ := List.mem_map.1 hmem
      have hne : value.conditionFor text ≠ .never := by simp [htext]
      have hmention := ValueMap.mem_columnList_conditionFor hne hc
      simp [htext, Expr.columnList] at hmention
    rw [conditionFor, Expr.mem_columnList_orAll halways]
    by_contra hnone
    apply h
    apply Expr.orAll_eq_never
    intro e he
    by_contra hne
    apply hnone
    use e, he
    obtain ⟨text, -, rfl⟩ := List.mem_map.1 he
    apply ValueMap.mem_columnList_conditionFor hne hc

/-- The term map is unambiguous on a row. -/
def Unambiguous (row : Row) : TermMap → Prop
  | .fixed _ => True
  | .typed _ value => value.Unambiguous row

/-- The language of the term map is in lower case. -/
def LowerCase : TermMap → Prop
  | .fixed _ => True
  | .typed kind _ => kind.LowerCase

/-- Different texts of the term map stand for different terms. -/
def isInjective : TermMap → Bool
  | .fixed _ => true
  | .typed kind _ => kind.isInjective

/-- A row on which the condition for a term is true gives the term. -/
theorem make?_of_truthOn_conditionFor (h : Expr.truthOn row (m.conditionFor t) = some true) :
  m.make? row = some t
  := by
  cases m with
  | fixed t' =>
    rw [conditionFor, Expr.truthOn_ofBool] at h
    simpa [make?] using h
  | typed kind value =>
    rw [conditionFor, Expr.truthOn_orAll_eq_true] at h
    obtain ⟨e, he, h⟩ := h
    obtain ⟨text, htext, rfl⟩ := List.mem_map.1 he
    rw [make?, ValueMap.fill?_of_truthOn_conditionFor h, Option.bind_some,
      TermKind.make?_of_mem_textsOf htext]

/-- On a row that gives a term, and on which the term map is unambiguous, the condition for the
term is true. -/
theorem truthOn_conditionFor_of_make? (hm : m.LowerCase) (hrow : m.Unambiguous row)
    (h : m.make? row = some t) :
  Expr.truthOn row (m.conditionFor t) = some true
  := by
  cases m with
  | fixed t' =>
    cases h
    simp [conditionFor]
  | typed kind value =>
    obtain ⟨text, htext, h⟩ := Option.bind_eq_some_iff.1 h
    rw [conditionFor, Expr.truthOn_orAll_eq_true]
    use value.conditionFor text
    constructor
    · apply List.mem_map_of_mem ((TermKind.mem_textsOf_iff hm).2 h)
    · apply ValueMap.truthOn_conditionFor_of_fill? hrow htext

/-- Rows on which the condition of an injective term map is true agree on its columns. -/
theorem get?_eq_of_truthOn_conditionFor (hm : m.isInjective = true) {row row' : Row}
    (h : Expr.truthOn row (m.conditionFor t) = some true)
    (h' : Expr.truthOn row' (m.conditionFor t) = some true) {c : Column} (hc : c ∈ m.columns) :
  row.get? c = row'.get? c
  := by
  cases m with
  | fixed t' => simp [columns] at hc
  | typed kind value =>
    rw [conditionFor, Expr.truthOn_orAll_eq_true] at h h'
    obtain ⟨e, he, h⟩ := h
    obtain ⟨e', he', h'⟩ := h'
    obtain ⟨text, htext, rfl⟩ := List.mem_map.1 he
    obtain ⟨text', htext', rfl⟩ := List.mem_map.1 he'
    rw [TermKind.eq_of_mem_textsOf hm htext' htext] at h'
    apply ValueMap.get?_eq_of_truthOn_conditionFor h h' hc

/-! ### Rows that give a term -/

/-- Where a term is given, all columns have a text. -/
theorem isSome_of_make? (h : m.make? row = some t) {c : Column} (hc : c ∈ m.columns) :
  (row.get? c).isSome
  := by
  cases m with
  | fixed t' => simp [columns] at hc
  | typed kind value =>
    obtain ⟨text, htext, -⟩ := Option.bind_eq_some_iff.1 h
    apply ValueMap.isSome_of_fill? htext hc

/-- The term depends on the columns of the term map only. -/
theorem make?_congr {row row' : Row} (h : ∀ c ∈ m.columns, row.get? c = row'.get? c) :
  m.make? row = m.make? row'
  := by
  cases m with
  | fixed t => rfl
  | typed kind value => rw [make?, make?, ValueMap.fill?_congr h]

theorem unambiguous_congr {row row' : Row} (h : ∀ c ∈ m.columns, row.get? c = row'.get? c)
    (hm : m.Unambiguous row) :
  m.Unambiguous row'
  := by
  cases m with
  | fixed t => apply True.intro
  | typed kind value => apply ValueMap.unambiguous_congr h hm

end TermMap

end RelGraph.Mapping
