import RelGraph.Mapping.Template
import RelGraph.Proofs.Except
import RelGraph.Proofs.Sql.Name

/-!
# Templates as they are read and written

A template is made of pieces with marks between them: its first text, and for each place the name of
its column, with its encoding, and the text that follows it.  Reading accepts exactly what writing
gives for the templates whose columns can be read and whose texts can be read in front of a mark.
Other names for the columns change nothing about the texts, and no mark can start in a name; so a
template whose columns are renamed can be read again (`Mapping.written_as_read`).
-/

namespace RelGraph.Mapping

open Sql Text

theorem Encoding.ofName?_eq_some_iff {name : String} {f : Encoding} :
  ofName? name = some f ↔ f.name? = some name
  := by
  rw [ofName?]
  constructor
  · intro h
    split at h
    · cases h
      simp [name?, *]
    · split at h
      · cases h
        simp [name?, *]
      · split at h
        · cases h
          simp [name?, *]
        · cases h
  · intro h
    cases f <;> simp [name?] at h <;> subst h <;> rfl

namespace Template

/-! ### Places -/

/-- What is written between the marks of a place. -/
def placeText (c : Column) (f : Encoding) : List Char :=
  c.render.toList ++
    match f.name? with
    | some name => '|' :: name.toList
    | none => []

/-- Reads the column of a place. -/
def readColumn (name : List Char) (f : Encoding) : Except TemplateError (Column × Encoding) :=
  match Column.parse (String.ofList name) with
  | .ok c => .ok (c, f)
  | .error e => .error (.column e)

theorem parsePlace_of_bar {place name encoding : List Char}
    (h : splitFirst '|' place = some (name, encoding)) :
  parsePlace place = Encoding.parse (String.ofList encoding) >>= readColumn name
  := by
  rw [parsePlace, h]
  rfl

theorem parsePlace_of_no_bar {place : List Char} (h : splitFirst '|' place = none) :
  parsePlace place = readColumn place .plain
  := by
  rw [parsePlace, h]
  rfl

theorem readColumn_eq_ok_iff {name : List Char} {f g : Encoding} {c : Column} :
  readColumn name f = .ok (c, g) ↔ (c.IsReadable ∧ c.render.toList = name) ∧ f = g
  := by
  have hname : c.render.toList = name ↔ c.render = String.ofList name := by
    rw [← String.toList_inj, String.toList_ofList]
  rw [hname, ← Column.parse_eq_ok_iff, readColumn]
  cases Column.parse (String.ofList name) <;> simp

theorem encodingParse_eq_ok_iff {name : String} {f : Encoding} :
  Encoding.parse name = .ok f ↔ f.name? = some name
  := by
  rw [← Encoding.ofName?_eq_some_iff, Encoding.parse]
  cases Encoding.ofName? name <;> simp

/-- The bar is in no name of a column. -/
theorem bar_not_mem_render {c : Column} (h : c.IsReadable) :
  '|' ∉ c.render.toList
  := by
  intro hmem
  have hbar := Column.isIdentifierChar_of_mem_render h hmem
  revert hbar
  decide

/-- Reading a place accepts exactly what writing gives. -/
theorem parsePlace_eq_ok_iff {place : List Char} {c : Column} {f : Encoding} :
  parsePlace place = .ok (c, f) ↔ c.IsReadable ∧ placeText c f = place
  := by
  constructor
  · intro h
    cases hsplit : splitFirst '|' place with
    | none =>
      rw [parsePlace_of_no_bar hsplit, readColumn_eq_ok_iff] at h
      obtain ⟨⟨hc, rfl⟩, rfl⟩ := h
      use hc
      simp [placeText, Encoding.name?]
    | some parts =>
      obtain ⟨name, encoding⟩ := parts
      rw [parsePlace_of_bar hsplit] at h
      obtain ⟨g, hg, h⟩ := bind_eq_ok.1 h
      rw [readColumn_eq_ok_iff] at h
      obtain ⟨⟨hc, rfl⟩, rfl⟩ := h
      use hc
      rw [placeText, encodingParse_eq_ok_iff.1 hg, (splitFirst_eq_some_iff.1 hsplit).2]
      simp
  · rintro ⟨hc, rfl⟩
    have hbar := bar_not_mem_render hc
    cases hname : f.name? with
    | none =>
      have hsplit : splitFirst '|' (placeText c f) = none := by
        rw [splitFirst_eq_none_iff, placeText, hname]
        simpa using hbar
      have hplain : Encoding.plain = f := by
        cases f <;> simp [Encoding.name?] at hname
        rfl
      rw [parsePlace_of_no_bar hsplit, readColumn_eq_ok_iff]
      use ⟨hc, by simp [placeText, hname]⟩
    | some name =>
      have hsplit : splitFirst '|' (placeText c f) = some (c.render.toList, name.toList) := by
        rw [splitFirst_eq_some_iff, placeText, hname]
        use hbar
      rw [parsePlace_of_bar hsplit, bind_eq_ok]
      use f
      rw [encodingParse_eq_ok_iff, readColumn_eq_ok_iff, String.ofList_toList]
      use hname, ⟨hc, rfl⟩

/-! ### Pieces -/

/-- The pieces of the places and the texts that follow them. -/
def slotPieces (ss : List Slot) : List (List Char) :=
  ss.flatMap fun s => [placeText s.column s.encoding, s.text.toList]

/-- The pieces of a template. -/
def pieces (t : Template) : List (List Char) := t.head.toList :: slotPieces t.slots

theorem toList_renderSlot (s : Slot) :
  (renderSlot s).toList = mark ++ placeText s.column s.encoding ++ mark ++ s.text.toList
  := by
  cases hname : s.encoding.name? <;> simp [renderSlot, placeText, hname, mark]

theorem intercalate_slotPieces (p : List Char) (ss : List Slot) :
  mark.intercalate (p :: slotPieces ss) = p ++ ss.flatMap fun s => (renderSlot s).toList
  := by
  rw [intercalate_cons, slotPieces, List.flatMap_assoc]
  simp [toList_renderSlot]

/-- A template is written as its pieces with marks between them. -/
theorem toList_render (t : Template) :
  t.render.toList = mark.intercalate t.pieces
  := by
  rw [pieces, intercalate_slotPieces, render, String.toList_append, String.toList_join,
    List.flatMap_map]

/-- The columns can be read. -/
def AreReadable (ss : List Slot) : Prop := ∀ s ∈ ss, s.column.IsReadable

theorem parseSlots_eq_ok_iff {template : String} {ps : List (List Char)} {ss : List Slot} :
  parseSlots template ps = .ok ss ↔ AreReadable ss ∧ slotPieces ss = ps
  := by
  induction ps using parseSlots.induct generalizing ss with
  | case1 =>
    rw [parseSlots]
    cases ss <;> simp [AreReadable, slotPieces]
  | case2 p =>
    rw [parseSlots]
    cases ss <;> simp [slotPieces]
  | case3 place text rest ih =>
    rw [parseSlots, bind_eq_ok]
    simp only [Prod.exists, parsePlace_eq_ok_iff, bind_eq_ok, ih, pure_eq_ok]
    constructor
    · rintro ⟨c, f, ⟨hc, rfl⟩, ss, ⟨hss, rfl⟩, rfl⟩
      use List.forall_mem_cons.2 ⟨hc, hss⟩
      simp [slotPieces]
    · rintro ⟨hss, heq⟩
      cases ss with
      | nil => cases heq
      | cons s ss =>
        obtain ⟨hplace, htext, rfl⟩ : placeText s.column s.encoding = place ∧ s.text.toList = text
          ∧ slotPieces ss = rest := by simpa [slotPieces] using heq
        obtain ⟨hs, hss⟩ := List.forall_mem_cons.1 hss
        use s.column, s.encoding, ⟨hs, hplace⟩, ss, ⟨hss, rfl⟩
        rw [← htext, String.ofList_toList]

/-- The columns can be read, and the marks of the template are those at its places. -/
def IsReadable (t : Template) : Prop := AreReadable t.slots ∧ ArePieces t.pieces

/-- Reading a template accepts exactly what writing gives. -/
theorem parse_eq_ok_iff {text : String} {t : Template} :
  parse text = .ok t ↔ t.IsReadable ∧ t.render = text
  := by
  have hparse : parse text = .ok t ↔ AreReadable t.slots ∧ t.pieces = splitMarks text.toList := by
    rw [parse, pieces]
    cases hpieces : splitMarks text.toList with
    | nil => apply absurd hpieces (splitMarks_ne_nil _)
    | cons p ps =>
      simp only [bind_eq_ok, pure_eq_ok, parseSlots_eq_ok_iff]
      constructor
      · rintro ⟨ss, ⟨hss, rfl⟩, rfl⟩
        simp [hss]
      · rintro ⟨hss, heq⟩
        obtain ⟨hhead, hslots⟩ := List.cons.inj heq
        use t.slots, ⟨hss, hslots⟩
        rw [← hhead, String.ofList_toList]
  rw [hparse, IsReadable, and_assoc]
  apply and_congr_right
  intro _
  rw [← String.toList_inj, toList_render]
  constructor
  · intro h
    rw [h]
    use arePieces_splitMarks _, intercalate_splitMarks _
  · rintro ⟨hpieces, h⟩
    rw [← h, splitMarks_intercalate hpieces]

/-! ### Renamed columns -/

/-- No mark starts in a place. -/
theorem endsAtMark_placeText {c : Column} (h : c.IsReadable) (f : Encoding) :
  EndsAtMark (placeText c f)
  := by
  apply endsAtMark_of_not_mem
  rw [placeText, List.mem_append, not_or]
  constructor
  · intro hmem
    have hat := Column.isIdentifierChar_of_mem_render h hmem
    revert hat
    decide
  · cases f <;> decide

/-- Other columns leave the pieces apart. -/
theorem arePieces_slotPieces_map {f : Column → Column} {p : List Char} {ss : List Slot}
    (h : ArePieces (p :: slotPieces ss)) (hf : ∀ s ∈ ss, (f s.column).IsReadable) :
  ArePieces (p :: slotPieces (ss.map fun s => { s with column := f s.column }))
  := by
  induction ss generalizing p with
  | nil => apply h
  | cons s ss ih =>
    obtain ⟨hp, -, hss⟩ := h
    rw [List.forall_mem_cons] at hf
    use hp, endsAtMark_placeText hf.1 s.encoding
    apply ih hss hf.2

theorem isReadable_rename {f : Column → Column} {t : Template} (h : t.IsReadable)
    (hf : ∀ s ∈ t.slots, (f s.column).IsReadable) :
  (t.rename f).IsReadable
  := by
  constructor
  · intro s hs
    obtain ⟨s', hs', rfl⟩ := List.mem_map.1 hs
    apply hf s' hs'
  · apply arePieces_slotPieces_map h.2 hf

end Template

/-- A table, a column or a template that is read is written as it was, and a template that is read
can be read again after its columns are renamed to columns that can be read. -/
theorem written_as_read :
  (∀ text t, Table.parse text = .ok t → t.render = text)
    ∧ (∀ text c, Column.parse text = .ok c → c.render = text)
    ∧ ∀ text t, Template.parse text = .ok t → t.render = text
      ∧ ∀ f : Column → Column, (∀ c ∈ t.columns, ∃ name, Column.parse name = .ok (f c))
        → Template.parse (t.rename f).render = .ok (t.rename f)
  := by
  refine ⟨fun _ _ h => (Table.parse_eq_ok_iff.1 h).2, fun _ _ h => (Column.parse_eq_ok_iff.1 h).2,
    ?_⟩
  intro text t h
  rw [Template.parse_eq_ok_iff] at h
  use h.2
  intro f hf
  rw [Template.parse_eq_ok_iff, and_iff_left rfl]
  apply Template.isReadable_rename h.1
  intro s hs
  obtain ⟨name, hname⟩ := hf s.column (List.mem_map_of_mem hs)
  apply (Column.parse_eq_ok_iff.1 hname).1

/-- A place between texts that hold single halves of a mark. -/
def halfMarks : Template :=
  ⟨"a@b", [⟨⟨⟨some "hr", "people"⟩, "name"⟩, .urlify, "@c@"⟩]⟩

/-- A copy of the column. -/
def copied : Column := ⟨⟨none, "T1_hr_people"⟩, "name"⟩

theorem written_as_read_halfMarks :
  Template.parse "a@b@@hr.people.name|urlify@@@c@" = .ok halfMarks
    ∧ halfMarks.render = "a@b@@hr.people.name|urlify@@@c@"
    ∧ Column.parse "T1_hr_people.name" = .ok copied
    ∧ Template.parse (halfMarks.rename fun _ => copied).render
      = .ok (halfMarks.rename fun _ => copied)
  := by
  have hparse : Template.parse "a@b@@hr.people.name|urlify@@@c@" = .ok halfMarks := rfl
  have hcopied : Column.parse "T1_hr_people.name" = .ok copied := rfl
  obtain ⟨-, -, h⟩ := written_as_read
  obtain ⟨hrender, hrename⟩ := h _ _ hparse
  use hparse, hrender, hcopied
  apply hrename
  intro c _
  exact ⟨"T1_hr_people.name", hcopied⟩

end RelGraph.Mapping
