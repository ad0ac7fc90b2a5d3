import RelGraph.Proofs.Text.Split
import RelGraph.Sql.Name

/-!
# Names as they are read and written

A name is its parts, with dots between them, and dots occur in no part of a name that can be read.
So reading accepts exactly what writing gives for the names all of whose parts are identifiers.
-/

namespace RelGraph.Sql

open Text

/-- A character that is in no identifier. -/
theorem not_mem_of_isIdentifier {c : Char} (hc : isIdentifierChar c = false) {cs : List Char}
    (h : isIdentifier cs = true) :
  c ∉ cs
  := by
  intro hmem
  rw [isIdentifier, Bool.and_eq_true, List.all_eq_true] at h
  rw [h.2 c hmem] at hc
  cases hc

/-- Identifiers are the parts of a text exactly when it is made of them, with dots between them. -/
theorem eq_split_iff {ps : List (List Char)} (h : ∀ p ∈ ps, isIdentifier p = true)
    (hne : ps ≠ []) {cs : List Char} :
  ps = split '.' cs ↔ ['.'].intercalate ps = cs
  := by
  constructor
  · rintro rfl
    apply intercalate_split
  · rintro rfl
    rw [split_intercalate _ hne]
    intro p hp
    apply not_mem_of_isIdentifier (by decide) (h p hp)

namespace Table

/-- The parts of the name of a table. -/
def parts (t : Table) : List (List Char) :=
  t.schema.toList.map String.toList ++ [t.name.toList]

/-- All parts of the name are identifiers. -/
def IsReadable (t : Table) : Prop := ∀ p ∈ t.parts, isIdentifier p = true

theorem toList_render (t : Table) :
  t.render.toList = ['.'].intercalate t.parts
  := by
  obtain ⟨_ | s, name⟩ := t
  · simp [render, parts]
  · simp [render, parts, List.intercalate_cons_cons]

theorem ofParts?_parts {t : Table} (h : t.IsReadable) :
  ofParts? t.parts = some t
  := by
  obtain ⟨_ | s, name⟩ := t
  · simp only [IsReadable, parts, Option.toList_none, List.map_nil, List.nil_append,
      List.forall_mem_singleton] at h
    simp [parts, ofParts?, h]
  · simp only [IsReadable, parts, Option.toList_some, List.map_singleton, List.singleton_append,
      List.forall_mem_cons] at h
    simp [parts, ofParts?, h]

theorem parts_of_ofParts? {ps : List (List Char)} {t : Table} (h : ofParts? ps = some t) :
  t.IsReadable ∧ t.parts = ps
  := by
  unfold ofParts? at h
  split at h
  · split at h
    · rename_i hname
      cases h
      simp [IsReadable, parts, hname]
    · cases h
  · split at h
    · rename_i hparts
      rw [Bool.and_eq_true] at hparts
      cases h
      simp [IsReadable, parts, hparts]
    · cases h
  · cases h

theorem ofParts?_eq_some_iff {ps : List (List Char)} {t : Table} :
  ofParts? ps = some t ↔ t.IsReadable ∧ t.parts = ps
  := by
  use parts_of_ofParts?
  rintro ⟨h, rfl⟩
  apply ofParts?_parts h

/-- Reading a table accepts exactly what writing gives. -/
theorem parse_eq_ok_iff {text : String} {t : Table} :
  Table.parse text = .ok t ↔ t.IsReadable ∧ t.render = text
  := by
  have hparse : Table.parse text = .ok t ↔ ofParts? (split '.' text.toList) = some t := by
    rw [Table.parse]
    cases ofParts? (split '.' text.toList) <;> simp
  rw [hparse, ofParts?_eq_some_iff]
  apply and_congr_right
  intro h
  rw [← String.toList_inj, toList_render, eq_split_iff h (by simp [parts])]

end Table

namespace Column

/-- The parts of the name of a column: those of its table, then its own. -/
def parts (c : Column) : List (List Char) := c.table.parts ++ [c.name.toList]

/-- All parts of the name are identifiers. -/
def IsReadable (c : Column) : Prop := ∀ p ∈ c.parts, isIdentifier p = true

theorem toList_render (c : Column) :
  c.render.toList = ['.'].intercalate c.parts
  := by
  rw [render, String.toList_append, String.toList_append, Table.toList_render, parts]
  obtain ⟨⟨_ | s, table⟩, name⟩ := c
  · simp [Table.parts, List.intercalate_cons_cons]
  · simp [Table.parts, List.intercalate_cons_cons]

theorem ofParts?_eq_some_iff {ps : List (List Char)} {c : Column} :
  ofParts? ps = some c ↔ c.IsReadable ∧ c.parts = ps
  := by
  have hreadable : c.IsReadable ↔ c.table.IsReadable ∧ isIdentifier c.name.toList = true := by
    simp [IsReadable, parts, Table.IsReadable, or_imp, forall_and]
  rw [hreadable]
  constructor
  · intro h
    rw [ofParts?] at h
    split at h
    · rename_i name hname
      split at h
      · rename_i hidentifier
        obtain ⟨t, ht, rfl⟩ := Option.map_eq_some_iff.1 h
        obtain ⟨ht, hparts⟩ := Table.ofParts?_eq_some_iff.1 ht
        simp [parts, ht, hparts, hidentifier, List.dropLast_append_getLast?, hname]
      · cases h
    · cases h
  · rintro ⟨⟨ht, hname⟩, rfl⟩
    rw [ofParts?, parts, List.getLast?_concat, List.dropLast_concat]
    simp [hname, Table.ofParts?_eq_some_iff.2 ⟨ht, rfl⟩]

/-- Reading a column accepts exactly what writing gives. -/
theorem parse_eq_ok_iff {text : String} {c : Column} :
  Column.parse text = .ok c ↔ c.IsReadable ∧ c.render = text
  := by
  have hparse : Column.parse text = .ok c ↔ ofParts? (split '.' text.toList) = some c := by
    rw [Column.parse]
    cases ofParts? (split '.' text.toList) <;> simp
  rw [hparse, ofParts?_eq_some_iff]
  apply and_congr_right
  intro h
  rw [← String.toList_inj, toList_render, eq_split_iff h (by simp [parts])]

/-- Columns that can be read and have one name are equal. -/
theorem eq_of_render_eq {c d : Column} (hc : c.IsReadable) (hd : d.IsReadable)
    (h : c.render = d.render) :
  c = d
  := by
  have hparse := parse_eq_ok_iff.2 ⟨hc, h⟩
  rw [parse_eq_ok_iff.2 ⟨hd, rfl⟩] at hparse
  apply (Except.ok.inj hparse).symm

/-- The characters of the name of a column. -/
theorem isIdentifierChar_of_mem_render {c : Column} (h : c.IsReadable) {a : Char}
    (ha : a ∈ c.render.toList) :
  a = '.' ∨ isIdentifierChar a = true
  := by
  rw [toList_render] at ha
  apply (mem_of_mem_intercalate ha).imp_right
  rintro ⟨p, hp, ha⟩
  by_contra hchar
  apply not_mem_of_isIdentifier (by simpa using hchar) (h p hp) ha

end Column

end RelGraph.Sql
