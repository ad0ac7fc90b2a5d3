import RelGraph.Proofs.Mapping.TermMap

/-!
# Value maps of one shape

Two value maps have the same shape if they differ in their columns only.  Then they give the same
text where the columns at the same places have the same texts, and conversely if the text can be cut
in one way only.  Renaming the columns keeps the shape.
-/

namespace RelGraph.Mapping

open Sql

namespace ValueMap

variable {row row' : Row} {v w : ValueMap}

/-- The value maps differ in their columns only. -/
def sameShape : ValueMap → ValueMap → Bool
  | .column _, .column _ => true
  | .template a, .template b => a.sameShape b
  | .blankKey a, .blankKey b => a.sameShape b
  | _, _ => false

/-- The columns at the same places have the same cells. -/
def Aligned (row row' : Row) (cs ds : List Column) : Prop :=
  List.Forall₂ (fun c d => row.get? c = row'.get? d) cs ds

theorem Aligned.exists_of_mem {cs ds : List Column} (h : Aligned row row' cs ds) {d : Column}
    (hd : d ∈ ds) :
  ∃ c ∈ cs, row.get? c = row'.get? d
  := by
  induction h with
  | nil => cases hd
  | @cons c d' cs ds hc _ ih =>
    obtain rfl | hd := List.mem_cons.1 hd
    · use c, List.mem_cons_self
    · obtain ⟨c', hc', heq⟩ := ih hd
      use c', List.mem_cons_of_mem c hc'

/-- What value maps of one shape have in common. -/
theorem sameShape_cases (h : v.sameShape w = true) :
  (∃ a b, v = .column a ∧ w = .column b)
    ∨ (∃ t u, v = .template t ∧ w = .template u ∧ t.head = u.head
      ∧ t.slots.map Slot.text = u.slots.map Slot.text
      ∧ t.slots.map Slot.encoding = u.slots.map Slot.encoding)
    ∨ ∃ k l, v = .blankKey k ∧ w = .blankKey l ∧ k.className = l.className
      ∧ k.columns.length = l.columns.length
  := by
  cases v with
  | column a =>
    cases w with
    | column b =>
      left
      use a, b
    | _ => cases h
  | template t =>
    cases w with
    | template u =>
      right; left
      use t, u, rfl, rfl
      simpa [sameShape, Template.sameShape, Template.texts, and_assoc] using h
    | _ => cases h
  | blankKey k =>
    cases w with
    | blankKey l =>
      right; right
      use k, l, rfl, rfl
      simpa [sameShape, BlankKey.sameShape] using h
    | _ => cases h

theorem length_columns_of_sameShape (h : v.sameShape w = true) :
  v.columns.length = w.columns.length
  := by
  obtain ⟨a, b, rfl, rfl⟩ | ⟨t, u, rfl, rfl, -, htext, -⟩ | ⟨k, l, rfl, rfl, -, hlength⟩ :=
    sameShape_cases h
  · rfl
  · simpa [columns, Template.columns] using congrArg List.length htext
  · apply hlength

/-! ### Texts of value maps of one shape -/

theorem fillSlots_eq {ss ss' : List Slot} (htext : ss.map Slot.text = ss'.map Slot.text)
    (hencoding : ss.map Slot.encoding = ss'.map Slot.encoding)
    (h : Aligned row row' (ss.map Slot.column) (ss'.map Slot.column)) :
  Template.fillSlots row ss = Template.fillSlots row' ss'
  := by
  induction ss generalizing ss' with
  | nil =>
    cases ss' with
    | nil => rfl
    | cons => simp at htext
  | cons s ss ih =>
    cases ss' with
    | nil => simp at htext
    | cons s' ss' =>
      simp only [List.map_cons, List.cons.injEq] at htext hencoding
      cases h with
      | cons hc h =>
        rw [Template.fillSlots, Template.fillSlots, hc, htext.1, hencoding.1,
          ih htext.2 hencoding.2 h]

theorem fillColumns_eq {cs ds : List Column} (h : Aligned row row' cs ds) :
  BlankKey.fillColumns row cs = BlankKey.fillColumns row' ds
  := by
  induction h with
  | nil => rfl
  | cons hc _ ih => rw [BlankKey.fillColumns, BlankKey.fillColumns, hc, ih]

/-- Value maps of one shape give the same text where their columns have the same cells. -/
theorem fill?_eq_of_aligned (h : v.sameShape w = true)
    (hcolumns : Aligned row row' v.columns w.columns) :
  v.fill? row = w.fill? row'
  := by
  obtain ⟨a, b, rfl, rfl⟩ | ⟨t, u, rfl, rfl, hhead, htext, hencoding⟩
    | ⟨k, l, rfl, rfl, hclass, -⟩ := sameShape_cases h
  · cases hcolumns with
    | cons hc _ => apply hc
  · rw [fill?, fill?, Template.fill?, Template.fill?, hhead,
      fillSlots_eq htext hencoding hcolumns]
  · rw [fill?, fill?, BlankKey.fill?, BlankKey.fill?, hclass,
      show BlankKey.fillColumns row k.columns = BlankKey.fillColumns row' l.columns from
        fillColumns_eq hcolumns]

theorem isCut_iff {ss ss' : List Slot} (h : ss.map Slot.text = ss'.map Slot.text)
    {vs : List (List Char)} {cs : List Char} :
  Template.IsCut ss vs cs ↔ Template.IsCut ss' vs cs
  := by
  induction ss generalizing ss' vs cs with
  | nil =>
    cases ss' with
    | nil => rfl
    | cons => simp at h
  | cons s ss ih =>
    cases ss' with
    | nil => simp at h
    | cons s' ss' =>
      simp only [List.map_cons, List.cons.injEq] at h
      cases vs with
      | nil => rfl
      | cons v vs => simp only [Template.IsCut, h.1, ih h.2]

theorem cuts_iff {t u : Template} (hhead : t.head = u.head)
    (htext : t.slots.map Slot.text = u.slots.map Slot.text) {text : String}
    {vs : List (List Char)} :
  t.Cuts text vs ↔ u.Cuts text vs
  := by
  simp only [Template.Cuts, hhead, isCut_iff htext]

/-- Whether the text can be cut in one way only depends on the shape and on the cells. -/
theorem unambiguous_of_aligned (h : v.sameShape w = true)
    (hcolumns : Aligned row row' v.columns w.columns) (hv : v.Unambiguous row) :
  w.Unambiguous row'
  := by
  have hfill := fill?_eq_of_aligned h hcolumns
  obtain ⟨a, b, rfl, rfl⟩ | ⟨t, u, rfl, rfl, hhead, htext, -⟩ | ⟨k, l, rfl, rfl, hclass, -⟩ :=
    sameShape_cases h
  · apply True.intro
  · intro text hu vs ws hvs hws
    apply hv text (hfill.trans hu) vs ws
    · apply (cuts_iff hhead htext).2 hvs
    · apply (cuts_iff hhead htext).2 hws
  · constructor
    · rw [← hclass]
      apply hv.1
    · intro d hd value hvalue
      obtain ⟨c, hc, heq⟩ := hcolumns.exists_of_mem hd
      apply hv.2 c hc value (heq.trans hvalue)

/-! ### Renaming -/

theorem columns_rename (f : Column → Column) (v : ValueMap) :
  (v.rename f).columns = v.columns.map f
  := by
  cases v with
  | column c => rfl
  | template t => simp [rename, columns, Template.rename, Template.columns]
  | blankKey k => rfl

theorem sameShape_rename (f : Column → Column) (v : ValueMap) :
  v.sameShape (v.rename f) = true
  := by
  cases v with
  | column c => rfl
  | template t =>
    simp [rename, sameShape, Template.rename, Template.sameShape, Template.texts,
      Function.comp_def]
  | blankKey k => simp [rename, sameShape, BlankKey.rename, BlankKey.sameShape]

theorem sameShape_symm (h : v.sameShape w = true) :
  w.sameShape v = true
  := by
  obtain ⟨a, b, rfl, rfl⟩ | ⟨t, u, rfl, rfl, hhead, htext, hencoding⟩
    | ⟨k, l, rfl, rfl, hclass, hlength⟩ := sameShape_cases h
  · rfl
  · simp [sameShape, Template.sameShape, Template.texts, hhead, htext, hencoding]
  · simp [sameShape, BlankKey.sameShape, hclass, hlength]

theorem sameShape_trans {u v w : ValueMap} (h : u.sameShape v = true)
    (h' : v.sameShape w = true) :
  u.sameShape w = true
  := by
  cases u <;> cases v <;> cases w
    <;> simp_all [sameShape, Template.sameShape, Template.texts, BlankKey.sameShape]

/-- The row has the cells of another one under new names. -/
theorem aligned_map {f : Column → Column} {cs : List Column}
    (h : ∀ c ∈ cs, row'.get? (f c) = row.get? c) :
  Aligned row row' cs (cs.map f)
  := by
  rw [Aligned, List.forall₂_map_right_iff, List.forall₂_same]
  intro c hc
  apply (h c hc).symm

end ValueMap

namespace TermMap

variable {f : Column → Column} {row row' : Row} {m : TermMap}

theorem columns_rename (f : Column → Column) (m : TermMap) :
  (m.rename f).columns = m.columns.map f
  := by
  cases m with
  | fixed t => rfl
  | typed kind value => apply ValueMap.columns_rename

/-- A renamed term map gives the same term on a renamed row. -/
theorem make?_rename (h : ∀ c ∈ m.columns, row'.get? (f c) = row.get? c) :
  (m.rename f).make? row' = m.make? row
  := by
  cases m with
  | fixed t => rfl
  | typed kind value =>
    have haligned : ValueMap.Aligned row row' value.columns (value.rename f).columns := by
      rw [ValueMap.columns_rename]
      apply ValueMap.aligned_map h
    rw [rename, make?, make?, ValueMap.fill?_eq_of_aligned (value.sameShape_rename f) haligned]

theorem unambiguous_rename (h : ∀ c ∈ m.columns, row'.get? (f c) = row.get? c)
    (hm : m.Unambiguous row) :
  (m.rename f).Unambiguous row'
  := by
  cases m with
  | fixed t => apply True.intro
  | typed kind value =>
    apply ValueMap.unambiguous_of_aligned (value.sameShape_rename f) _ hm
    rw [ValueMap.columns_rename]
    apply ValueMap.aligned_map h

theorem lowerCase_rename (h : m.LowerCase) :
  (m.rename f).LowerCase
  := by
  cases m <;> apply h

end TermMap

end RelGraph.Mapping
