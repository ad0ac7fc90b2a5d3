import RelGraph.Proofs.Mapping.Bgp
import RelGraph.Proofs.Sql.RenamedRows

/-!
# Triples of maps with renamed tables

Renaming the tables of a relation changes no row but for the names of its columns.  A copy of a
triple map renames the columns of its term maps in the same way, so that it gives the same triples,
each as often as the triple map.
-/

namespace RelGraph.Mapping

open Rdf Sql

namespace TripleMap

/-- A copy gives on a renamed row what the triple map gives on the row. -/
theorem make?_copy {m m' : TripleMap} {n : Nat} (hm : m.Readable) (h : m.copy n = .ok m') :
  ∃ names, m.relation.copyNames n = .ok names ∧ m.relation.renameTables names = .ok m'.relation
    ∧ (m.relation.isEmpty = false → ∀ cells,
      m'.make? ((Row.sample m.relation.projections cells).rename names.nameColumn)
        = m.make? (Row.sample m.relation.projections cells))
  := by
  simp only [copy, bind_eq_ok, pure_eq_ok] at h
  obtain ⟨names, hnames, relation, hrelation, rfl⟩ := h
  use names, hnames, hrelation
  intro he cells
  have htable : ∀ c ∈ m.relation.projections, c.table ∈ m.relation.tables := by
    intro c hc
    apply hm.sound.mem_tables (Relation.mem_columnList_of_mem_projections hc)
  have hinj : ∀ c ∈ m.relation.projections, ∀ d ∈ m.relation.projections,
      names.nameColumn c = names.nameColumn d → c = d := by
    intro c hc d hd heq
    have hrenaming := Relation.renaming_copyNames hnames
    rw [← hrenaming.baseColumn_nameColumn (htable c hc), heq,
      hrenaming.baseColumn_nameColumn (htable d hd)]
  have hterm : ∀ t ∈ m.termMaps, (t.rename names.nameColumn).make?
      ((Row.sample m.relation.projections cells).rename names.nameColumn)
        = t.make? (Row.sample m.relation.projections cells) := by
    intro t ht
    apply TermMap.make?_rename
    intro c hc
    apply Row.get?_rename_sample hinj
    rw [hm.made.mem_projections_iff he, columns, List.mem_flatMap]
    use t, ht
  rw [make?, make?, hterm m.subject (by simp [termMaps]), hterm m.predicate (by simp [termMaps]),
    hterm m.object (by simp [termMaps])]

end TripleMap

/-- Renaming tables keeps the answer: it succeeds, and the query has the same rows as often as
before, with the columns under their new names.  The tables that get a name are tables of the
relation, and no table that keeps its name has one of the new ones.  A copy of a triple map gives
the same triples as often as the triple map. -/
theorem renaming_keeps_answers {db : Database} (hdb : db.Rectangular) :
  (∀ (r : Relation) (as : List Alias) (names : Aliases), r.Sound → r.condition.Built → r.Fits db
      → Aliases.ofList as = .ok names → (∀ a ∈ as, a.table ∈ r.tables)
      → (∀ a ∈ as, a.name ∈ r.tables → ∃ b ∈ as, b.table = a.name)
      → ∃ s rows rows', r.renameTables names = .ok s ∧ db.answer ⟨r⟩ = .ok rows
        ∧ db.answer ⟨s⟩ = .ok rows' ∧ rows'.Perm (rows.map (Row.rename names.nameColumn)))
    ∧ ∀ (m m' : TripleMap) (n : Nat), m.Readable → m.relation.Fits db → m.copy n = .ok m'
      → ∃ rows rows', db.answer ⟨m.relation⟩ = .ok rows ∧ db.answer ⟨m'.relation⟩ = .ok rows'
        ∧ (rows'.filterMap m'.make?).Perm (rows.filterMap m.make?)
  := by
  constructor
  · intro r as names hr hbuilt hfits hnames htables hfree
    apply Relation.exists_answer_renameTables hr hbuilt.normal hfits hdb
    apply Relation.renaming_ofList hnames htables hfree
  · intro m m' n hm hfits hcopy
    obtain ⟨names, hnames, hrename, hmake⟩ := TripleMap.make?_copy hm hcopy
    obtain ⟨s, rows, rows', hs, hrows, hrows', hperm⟩ := Relation.exists_answer_renameTables hm.sound
      hm.built.normal hfits hdb (Relation.renaming_copyNames hnames)
    rw [hrename] at hs
    cases hs
    use rows, rows', hrows, hrows'
    have hitems : (rows.map (Row.rename names.nameColumn)).filterMap m'.make?
        = rows.filterMap m.make? := by
      rw [List.filterMap_map]
      apply List.filterMap_congr
      intro row hrow
      obtain ⟨pick, hpick, rfl⟩ := (Relation.mem_answer_iff hm.sound hrows).1 hrow
      apply hmake hpick.isEmpty_eq_false
    rw [← hitems]
    apply hperm.filterMap

/-! ### An example -/

/-- A table without a schema. -/
def plainTable (name : String) : Table := ⟨none, name⟩

/-- The names of persons and of those whom they know, by the numbers of the latter. -/
def pairRelation : Relation where
  database := some "db"
  aliases := ⟨.ofList [(plainTable "p", plainTable "person"), (plainTable "q", plainTable "person")],
    .ofList [(plainTable "person", [plainTable "p", plainTable "q"])]⟩
  condition := .isNotNull (.column ⟨plainTable "q", "name"⟩)
  joins := [⟨[(⟨plainTable "knows", "a"⟩, ⟨plainTable "p", "id"⟩)], by simp⟩,
    ⟨[(⟨plainTable "knows", "b"⟩, ⟨plainTable "q", "id"⟩)], by simp⟩]
  projections := [⟨plainTable "p", "name"⟩, ⟨plainTable "q", "name"⟩]
  unique := true
  order := some (⟨plainTable "knows", "b"⟩, .ascending)
  limit := none
  limitInverse := none

/-- Two names are exchanged, and the third one is that of a table of the database. -/
def pairNames : List Alias :=
  [⟨plainTable "p", plainTable "q"⟩, ⟨plainTable "q", plainTable "p"⟩,
    ⟨plainTable "knows", plainTable "person"⟩]

theorem sound_pairRelation :
  pairRelation.Sound
  := by
  constructor
  · rfl
  · rfl
  · rfl
  · intro j hj
    simp only [pairRelation, List.mem_cons, List.not_mem_nil, or_false] at hj
    obtain rfl | rfl := hj
    · use plainTable "knows", plainTable "p"
      simp [plainTable]
    · use plainTable "knows", plainTable "q"
      simp [plainTable]

theorem renaming_keeps_answers_pairRelation :
  friendsDatabase.Rectangular ∧ pairRelation.Sound ∧ pairRelation.condition.Built
    ∧ pairRelation.Fits friendsDatabase
    ∧ (∀ a ∈ pairNames, a.table ∈ pairRelation.tables)
    ∧ (∀ a ∈ pairNames, a.name ∈ pairRelation.tables → ∃ b ∈ pairNames, b.table = a.name)
    ∧ (∃ names s, Aliases.ofList pairNames = .ok names ∧ pairRelation.renameTables names = .ok s
      ∧ friendsDatabase.answer ⟨s⟩
        = .ok [⟨[(⟨plainTable "p", "name"⟩, some "Bob"), (⟨plainTable "q", "name"⟩, some "Ann")]⟩])
    ∧ knowsMap.Readable ∧ knowsMap.relation.Fits friendsDatabase
    ∧ ∃ m' rows, knowsMap.copy 1 = .ok m' ∧ friendsDatabase.answer ⟨m'.relation⟩ = .ok rows
      ∧ rows.filterMap m'.make? = [⟨.iri ⟨"ex:1"⟩, ⟨"ex:knows"⟩, .iri ⟨"ex:2"⟩⟩]
  := by
  have hbuilt : pairRelation.condition.Built := .isNotNull (.column _)
  have hfits : pairRelation.Fits friendsDatabase := by
    apply Relation.fits_of_any <;> decide
  have htables : ∀ a ∈ pairNames, a.table ∈ pairRelation.tables := by decide
  have hfree : ∀ a ∈ pairNames, a.name ∈ pairRelation.tables → ∃ b ∈ pairNames, b.table = a.name := by
    decide
  obtain ⟨hknows, hknowsFits⟩ := readable_friendsDatabase knowsMap (by simp)
  have h := renaming_keeps_answers rectangular_friendsDatabase
  use rectangular_friendsDatabase, sound_pairRelation, hbuilt, hfits, htables, hfree
  constructor
  · have hnames : Aliases.ofList pairNames = .ok ((Aliases.ofList pairNames).toOption.getD .empty) := by
      apply eq_ok_of_toOption
      decide
    have hown : friendsDatabase.answer ⟨pairRelation⟩
        = .ok [⟨[(⟨plainTable "p", "name"⟩, some "Ann"), (⟨plainTable "q", "name"⟩, some "Bob")]⟩] := by
      apply eq_ok_of_toOption
      decide +kernel
    obtain ⟨s, rows, rows', hs, hrows, hrows', hperm⟩ :=
      h.1 pairRelation pairNames _ sound_pairRelation hbuilt hfits hnames htables hfree
    rw [hown] at hrows
    cases hrows
    rw [List.map_singleton, List.perm_singleton] at hperm
    refine ⟨_, s, hnames, hs, ?_⟩
    rw [hrows', hperm]
    apply eq_ok_of_toOption
    decide
  · use hknows, hknowsFits
    have hcopy : (knowsMap.copy 1).toOption.isSome := by decide
    obtain ⟨m', hm'⟩ := Option.isSome_iff_exists.1 hcopy
    obtain ⟨rows, rows', hrows, hrows', hperm⟩ :=
      h.2 knowsMap m' 1 hknows hknowsFits (eq_ok_of_toOption hm')
    have hown : rows.filterMap knowsMap.make?
        = [⟨.iri ⟨"ex:1"⟩, ⟨"ex:knows"⟩, .iri ⟨"ex:2"⟩⟩] := by
      have heq : (friendsDatabase.answer ⟨knowsMap.relation⟩).toOption.map
          (List.filterMap knowsMap.make?)
            = some [⟨.iri ⟨"ex:1"⟩, ⟨"ex:knows"⟩, .iri ⟨"ex:2"⟩⟩] := by
        decide
      rw [hrows] at heq
      apply Option.some.inj heq
    rw [hown, List.perm_singleton] at hperm
    exact ⟨m', rows', eq_ok_of_toOption hm', hrows', hperm⟩

end RelGraph.Mapping
