import RelGraph.Mapping.ValueMap
import RelGraph.Proofs.Mapping.Template
import RelGraph.Proofs.Text.Split

/-!
# Conditions of value maps

The condition for a text is true only on rows that give the text.  On rows on which the value
map is unambiguous it is true on all of them, and it is known wherever a text is given.  It reads
the columns of the value map, all of them unless it is never true.
-/

namespace RelGraph.Text

/-! ### Marks -/

/-- Texts after marks. -/
def marked (ps : List (List Char)) : List Char := ps.flatMap fun p => '@' :: '@' :: p

theorem intercalate_mark (p : List Char) (ps : List (List Char)) :
  mark.intercalate (p :: ps) = p ++ marked ps
  := intercalate_cons mark p ps

/-- Pieces without the sign of the mark are cut apart again. -/
theorem splitMarks_marked {p : List Char} {ps : List (List Char)}
    (h : ∀ q ∈ p :: ps, '@' ∉ q) :
  splitMarks (p ++ marked ps) = p :: ps
  := by
  rw [← intercalate_mark]
  apply splitMarks_intercalate (arePieces_of_not_mem h (List.cons_ne_nil p ps))

/-- A text is put together from the pieces into which it is cut. -/
theorem splitMarks_spec (cs : List Char) :
  ∃ p ps, splitMarks cs = p :: ps ∧ cs = p ++ marked ps
  := by
  obtain ⟨p, ps, hps⟩ := List.exists_cons_of_ne_nil (splitMarks_ne_nil cs)
  use p, ps, hps
  rw [← intercalate_mark, ← hps, intercalate_splitMarks]

end RelGraph.Text

namespace RelGraph.Mapping

open Sql Text

variable {row row' : Row} {cs : List Column} {text : String} {values : List String} {v : ValueMap}
  {c : Column} {k : BlankKey}

namespace BlankKey

/-! ### Keys of blank nodes -/

/-- The columns have the given texts on a row. -/
def HaveTexts (row : Row) (cs : List Column) (values : List String) : Prop :=
  List.Forall₂ (fun c value => row.get? c = some value) cs values

@[simp]
theorem haveTexts_cons {value : String} :
  HaveTexts row (c :: cs) (value :: values)
    ↔ row.get? c = some value ∧ HaveTexts row cs values
  := List.forall₂_cons

theorem HaveTexts.exists_column (h : HaveTexts row cs values) {value : String}
    (hvalue : value ∈ values) :
  ∃ c ∈ cs, row.get? c = some value
  := by
  induction h with
  | nil => simp at hvalue
  | cons hc _ ih =>
    rename_i c v cs vs _
    rw [List.mem_cons] at hvalue
    obtain rfl | hvalue := hvalue
    · use c
      simp [hc]
    · obtain ⟨d, hd, h⟩ := ih hvalue
      use d, List.mem_cons_of_mem _ hd

theorem HaveTexts.get?_eq (h : HaveTexts row cs values) (h' : HaveTexts row' cs values)
    (hc : c ∈ cs) :
  row.get? c = row'.get? c
  := by
  induction cs generalizing values with
  | nil => simp at hc
  | cons d cs ih =>
    cases values with
    | nil => cases h
    | cons value values =>
      rw [haveTexts_cons] at h h'
      rw [List.mem_cons] at hc
      obtain rfl | hc := hc
      · rw [h.1, h'.1]
      · apply ih h.2 h'.2 hc

theorem HaveTexts.isSome (h : HaveTexts row cs values) (hc : c ∈ cs) :
  (row.get? c).isSome
  := by
  induction h with
  | nil => simp at hc
  | cons hd _ ih =>
    rw [List.mem_cons] at hc
    obtain rfl | hc := hc
    · simp [hd]
    · apply ih hc

theorem fillColumns_eq_some_iff :
  fillColumns row cs = some text
    ↔ ∃ values, HaveTexts row cs values ∧ text.toList = marked (values.map String.toList)
  := by
  induction cs generalizing text with
  | nil =>
    rw [fillColumns]
    constructor
    · intro h
      cases h
      use []
      simp [HaveTexts, marked]
    · rintro ⟨values, hvalues, htext⟩
      cases hvalues
      rw [marked, List.map_nil, List.flatMap_nil, String.toList_eq_nil_iff] at htext
      rw [htext]
  | cons c cs ih =>
    rw [fillColumns]
    simp only [Option.bind_eq_bind, Option.bind_eq_some_iff, Option.pure_def, Option.some.injEq,
      ih]
    constructor
    · rintro ⟨value, hvalue, tail, ⟨values, hvalues, htail⟩, rfl⟩
      use value :: values
      constructor
      · rw [haveTexts_cons]
        use hvalue
      · simp [marked, htail]
    · rintro ⟨values, hvalues, htext⟩
      cases hvalues with
      | cons hvalue hvalues =>
        rename_i value values
        use value, hvalue, String.ofList (marked (values.map String.toList))
        constructor
        · use values, hvalues
          rw [String.toList_ofList]
        · apply String.toList_injective
          simp [htext, marked]

theorem fill?_eq_some_iff :
  k.fill? row = some text
    ↔ ∃ values, HaveTexts row k.columns values
      ∧ text.toList = k.className.toList ++ marked (values.map String.toList)
  := by
  rw [fill?, Option.map_eq_some_iff]
  simp only [fillColumns_eq_some_iff]
  constructor
  · rintro ⟨rest, ⟨values, hvalues, hrest⟩, rfl⟩
    use values, hvalues
    simp [hrest]
  · rintro ⟨values, hvalues, htext⟩
    use String.ofList (marked (values.map String.toList))
    constructor
    · use values, hvalues
      rw [String.toList_ofList]
    · apply String.toList_injective
      simp [htext]

theorem truthOn_zipWith_eq_true (h : values.length = cs.length) :
  Expr.truthOn row (Expr.andAll (cs.zipWith Expr.columnIs values)) = some true
    ↔ HaveTexts row cs values
  := by
  rw [Expr.truthOn_andAll_eq_true]
  induction cs generalizing values with
  | nil =>
    rw [List.length_eq_zero_iff.1 h]
    simp [HaveTexts]
  | cons c cs ih =>
    cases values with
    | nil => cases h
    | cons value values =>
      rw [List.length_cons, List.length_cons, Nat.add_right_cancel_iff] at h
      rw [List.zipWith_cons_cons, List.forall_mem_cons, ih h, Expr.truthOn_columnIs_eq_true,
        haveTexts_cons]

/-- A row on which the condition for a text is true gives the text. -/
theorem fill?_of_truthOn_conditionFor (h : Expr.truthOn row (k.conditionFor text) = some true) :
  k.fill? row = some text
  := by
  obtain ⟨p, ps, hsplit, htext⟩ := splitMarks_spec text.toList
  rw [conditionFor, hsplit, List.map_cons] at h
  simp only at h
  split at h
  · rename_i hshape
    simp only [Bool.and_eq_true, decide_eq_true_eq] at hshape
    rw [truthOn_zipWith_eq_true hshape.2] at h
    rw [fill?_eq_some_iff]
    use ps.map String.ofList, h
    rw [htext, ← hshape.1]
    simp [Function.comp_def]
  · simp at h

/-- The sign of the mark occurs neither in the class nor in the values of a key. -/
def Unmarked (k : BlankKey) (row : Row) : Prop :=
  '@' ∉ k.className.toList ∧ ∀ c ∈ k.columns, ∀ value, row.get? c = some value → '@' ∉ value.toList

/-- Without marks in them, the class and the values are read back from the text. -/
theorem Unmarked.splitMarks_eq (hk : k.Unmarked row) (hvalues : HaveTexts row k.columns values)
    (htext : text.toList = k.className.toList ++ marked (values.map String.toList)) :
  splitMarks text.toList = k.className.toList :: values.map String.toList
  := by
  rw [htext]
  apply splitMarks_marked
  rw [List.forall_mem_cons, List.forall_mem_map]
  use hk.1
  intro value hvalue
  obtain ⟨c, hc, h⟩ := hvalues.exists_column hvalue
  apply hk.2 c hc value h

theorem truthOn_conditionFor_of_fill? (hk : k.Unmarked row) (h : k.fill? row = some text) :
  Expr.truthOn row (k.conditionFor text) = some true
  := by
  obtain ⟨values, hvalues, htext⟩ := fill?_eq_some_iff.1 h
  have hlength : values.length = k.columns.length := hvalues.length_eq.symm
  rw [conditionFor, hk.splitMarks_eq hvalues htext, List.map_cons, List.map_map]
  simp only [String.ofList_toList, Function.comp_def, List.map_id', hlength, decide_true,
    Bool.and_true, if_true]
  rw [truthOn_zipWith_eq_true hlength]
  apply hvalues

end BlankKey

namespace ValueMap

/-! ### Conditions on columns -/

/-- The condition that columns have the given texts. -/
def columnsAre (cs : List Column) (values : List String) : Expr :=
  Expr.andAll (cs.zipWith Expr.columnIs values)

theorem columnIs_ne (c : Column) (value : String) :
  Expr.columnIs c value ≠ .never ∧ Expr.columnIs c value ≠ .always
    ∧ ∀ es, Expr.columnIs c value ≠ .and es
  := by
  have hne : Expr.column c ≠ Expr.constant value := by simp
  simp only [Expr.columnIs, Expr.equalOf, if_neg hne]
  split <;> simp

theorem columnsAre_singleton (c : Column) (value : String) :
  columnsAre [c] [value] = Expr.columnIs c value
  := by
  obtain ⟨hnever, halways, hand⟩ := columnIs_ne c value
  have hconjuncts : Expr.conjuncts [Expr.columnIs c value] = [Expr.columnIs c value] := by
    rw [Expr.conjuncts]
    · rfl
    · apply halways
    · apply hand
  simp [columnsAre, Expr.andAll, hconjuncts, Ne.symm hnever, canonical, place]

theorem mem_zipWith_columnIs {e : Expr} (h : e ∈ cs.zipWith Expr.columnIs values) :
  ∃ c ∈ cs, ∃ value, e = Expr.columnIs c value
  := by
  induction cs generalizing values with
  | nil => simp at h
  | cons c cs ih =>
    cases values with
    | nil => simp at h
    | cons value values =>
      rw [List.zipWith_cons_cons, List.mem_cons] at h
      obtain rfl | h := h
      · use c, List.mem_cons_self, value
      · obtain ⟨d, hd, h⟩ := ih h
        use d, List.mem_cons_of_mem _ hd

theorem isCondition_columnsAre (cs : List Column) (values : List String) :
  (columnsAre cs values).isCondition = true
  := by
  apply Expr.isCondition_andAll
  intro e he
  obtain ⟨c, -, value, rfl⟩ := mem_zipWith_columnIs he
  apply Expr.isCondition_columnIs

theorem readsOnly_columnsAre (cs : List Column) (values : List String) :
  Expr.ReadsOnly cs (columnsAre cs values)
  := by
  apply Expr.readsOnly_andAll
  intro e he
  obtain ⟨c, hc, value, rfl⟩ := mem_zipWith_columnIs he
  apply Expr.readsOnly_columnIs hc

theorem known_columnsAre (h : ∀ c ∈ cs, (row.get? c).isSome) (values : List String) :
  Expr.Known row (columnsAre cs values)
  := by
  apply Expr.known_andAll
  intro e he
  obtain ⟨c, hc, value, rfl⟩ := mem_zipWith_columnIs he
  apply Expr.known_columnIs (h c hc)

theorem mem_columnList_columnsAre (h : values.length = cs.length) (hc : c ∈ cs) :
  c ∈ (columnsAre cs values).columnList
  := by
  rw [columnsAre, Expr.mem_columnList_andAll]
  · obtain ⟨i, hi, rfl⟩ := List.mem_iff_getElem.1 hc
    use Expr.columnIs cs[i] values[i]
    constructor
    · rw [List.mem_iff_getElem]
      use i, by simp [h, hi]
      simp
    · apply Expr.mem_columnList_columnIs
  · intro hnever
    obtain ⟨d, -, value, hd⟩ := mem_zipWith_columnIs hnever
    apply (columnIs_ne d value).1 hd.symm

/-- The places of a template are compared with the decoded values, unless one is not decoded. -/
theorem zipWith_slotCondition (ss : List Slot) (vs : List (List Char))
    (h : vs.length = ss.length) :
  Expr.never ∈ ss.zipWith Template.slotCondition vs
    ∨ ∃ values, values.length = ss.length
      ∧ ss.zipWith Template.slotCondition vs = (ss.map Slot.column).zipWith Expr.columnIs values
  := by
  induction ss generalizing vs with
  | nil =>
    right
    use []
    simp
  | cons s ss ih =>
    cases vs with
    | nil => cases h
    | cons v vs =>
      rw [List.length_cons, List.length_cons, Nat.add_right_cancel_iff] at h
      rw [List.zipWith_cons_cons]
      cases hd : s.encoding.decode? (String.ofList v) with
      | none =>
        left
        simp [Template.slotCondition, hd]
      | some value =>
        obtain hnever | ⟨values, hlength, hvalues⟩ := ih vs h
        · left
          apply List.mem_cons_of_mem _ hnever
        · right
          use value :: values
          simp [hlength, hvalues, Template.slotCondition, hd]

/-- The condition for a text is never true, or it says that the columns have certain texts. -/
theorem conditionFor_cases (v : ValueMap) (text : String) :
  v.conditionFor text = .never
    ∨ ∃ values, values.length = v.columns.length
      ∧ v.conditionFor text = columnsAre v.columns values
  := by
  cases v with
  | column c =>
    right
    use [text], rfl
    rw [columns, columnsAre_singleton]
    rfl
  | template t =>
    rw [conditionFor, Template.conditionFor]
    split
    · left
      rfl
    · split
      · left
        rfl
      · rename_i vs hvs
        have hlength := Template.length_of_isCut (Template.isCut_of_cut? hvs)
        obtain hnever | ⟨values, hvalues, heq⟩ := zipWith_slotCondition t.slots vs hlength
        · left
          rw [Expr.andAll, if_pos hnever]
        · right
          use values
          simp [columns, Template.columns, columnsAre, hvalues, heq]
  | blankKey k =>
    rw [conditionFor, BlankKey.conditionFor]
    split
    · left
      rfl
    · split
      · rename_i className values _ hshape
        simp only [Bool.and_eq_true, decide_eq_true_eq] at hshape
        right
        use values, hshape.2
        rfl
      · left
        rfl

theorem isCondition_conditionFor (v : ValueMap) (text : String) :
  (v.conditionFor text).isCondition = true
  := by
  obtain h | ⟨values, -, h⟩ := conditionFor_cases v text
  · rw [h]
    rfl
  · rw [h]
    apply isCondition_columnsAre

theorem readsOnly_conditionFor (v : ValueMap) (text : String) :
  Expr.ReadsOnly v.columns (v.conditionFor text)
  := by
  obtain h | ⟨values, -, h⟩ := conditionFor_cases v text
  · rw [h]
    apply Expr.readsOnly_never
  · rw [h]
    apply readsOnly_columnsAre

/-- The condition is known where all columns have a text. -/
theorem known_conditionFor (h : ∀ c ∈ v.columns, (row.get? c).isSome) (text : String) :
  Expr.Known row (v.conditionFor text)
  := by
  obtain hnever | ⟨values, -, heq⟩ := conditionFor_cases v text
  · rw [hnever]
    apply Expr.known_ofBool row false
  · rw [heq]
    apply known_columnsAre h

/-- The condition mentions all columns, unless it is never true. -/
theorem mem_columnList_conditionFor (h : v.conditionFor text ≠ .never) (hc : c ∈ v.columns) :
  c ∈ (v.conditionFor text).columnList
  := by
  obtain hnever | ⟨values, hlength, heq⟩ := conditionFor_cases v text
  · contradiction
  · rw [heq]
    apply mem_columnList_columnsAre hlength hc

/-- Rows on which the condition is true agree on the columns. -/
theorem get?_eq_of_truthOn_conditionFor (h : Expr.truthOn row (v.conditionFor text) = some true)
    (h' : Expr.truthOn row' (v.conditionFor text) = some true) (hc : c ∈ v.columns) :
  row.get? c = row'.get? c
  := by
  obtain hnever | ⟨values, hlength, heq⟩ := conditionFor_cases v text
  · simp [hnever] at h
  · rw [heq, columnsAre, BlankKey.truthOn_zipWith_eq_true hlength] at h h'
    apply h.get?_eq h' hc

/-! ### Rows that give a text -/

/-- The text of a value map on a row determines the values it was made from. -/
def Unambiguous (row : Row) : ValueMap → Prop
  | .column _ => True
  | .template t => ∀ text, t.fill? row = some text → t.CutsOnce text
  | .blankKey k => k.Unmarked row

theorem fill?_of_truthOn_conditionFor (h : Expr.truthOn row (v.conditionFor text) = some true) :
  v.fill? row = some text
  := by
  cases v with
  | column c => apply Expr.truthOn_columnIs_eq_true.1 h
  | template t => apply Template.fill?_of_truthOn_conditionFor h
  | blankKey k => apply BlankKey.fill?_of_truthOn_conditionFor h

theorem truthOn_conditionFor_of_fill? (hv : v.Unambiguous row) (h : v.fill? row = some text) :
  Expr.truthOn row (v.conditionFor text) = some true
  := by
  cases v with
  | column c => apply Expr.truthOn_columnIs_eq_true.2 h
  | template t => apply Template.truthOn_conditionFor_of_fill? (hv text h) h
  | blankKey k => apply BlankKey.truthOn_conditionFor_of_fill? hv h

/-- Where a text is given, all columns have a text. -/
theorem isSome_of_fill? (h : v.fill? row = some text) (hc : c ∈ v.columns) :
  (row.get? c).isSome
  := by
  cases v with
  | column d =>
    rw [columns, List.mem_singleton] at hc
    subst hc
    rw [show row.get? c = some text from h]
    rfl
  | template t =>
    obtain ⟨vs, -, hvs⟩ := Template.fill?_eq_some_iff.1 h
    obtain ⟨s, hs, rfl⟩ := List.mem_map.1 hc
    obtain ⟨i, hi, rfl⟩ := List.mem_iff_getElem.1 hs
    obtain ⟨value, hvalue, -⟩ := hvs.get hi (by rw [← hvs.length_eq]; apply hi)
    simpa using Option.isSome_of_mem hvalue
  | blankKey k =>
    obtain ⟨values, hvalues, -⟩ := BlankKey.fill?_eq_some_iff.1 h
    apply hvalues.isSome hc

theorem fillSlots_congr {ss : List Slot} (h : ∀ s ∈ ss, row.get? s.column = row'.get? s.column) :
  Template.fillSlots row ss = Template.fillSlots row' ss
  := by
  induction ss with
  | nil => rfl
  | cons s ss ih =>
    rw [List.forall_mem_cons] at h
    rw [Template.fillSlots, Template.fillSlots, h.1, ih h.2]

theorem fillColumns_congr (h : ∀ c ∈ cs, row.get? c = row'.get? c) :
  BlankKey.fillColumns row cs = BlankKey.fillColumns row' cs
  := by
  induction cs with
  | nil => rfl
  | cons c cs ih =>
    rw [List.forall_mem_cons] at h
    rw [BlankKey.fillColumns, BlankKey.fillColumns, h.1, ih h.2]

/-- The text depends on the columns of the value map only. -/
theorem fill?_congr (h : ∀ c ∈ v.columns, row.get? c = row'.get? c) :
  v.fill? row = v.fill? row'
  := by
  cases v with
  | column c => apply h c (by simp [columns])
  | template t =>
    rw [fill?, fill?, Template.fill?, Template.fill?, fillSlots_congr]
    intro s hs
    apply h _ (List.mem_map_of_mem hs)
  | blankKey k =>
    rw [fill?, fill?, BlankKey.fill?, BlankKey.fill?, fillColumns_congr]
    apply h

theorem unambiguous_congr (h : ∀ c ∈ v.columns, row.get? c = row'.get? c) (hv : v.Unambiguous row) :
  v.Unambiguous row'
  := by
  cases v with
  | column c => apply True.intro
  | template t =>
    intro text htext
    apply hv text
    rw [show t.fill? row = t.fill? row' from fill?_congr h]
    apply htext
  | blankKey k =>
    use hv.1
    intro c hc value hvalue
    apply hv.2 c hc
    rw [h c hc]
    apply hvalue

end ValueMap

end RelGraph.Mapping
