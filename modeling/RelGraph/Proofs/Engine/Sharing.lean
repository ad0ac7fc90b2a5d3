import RelGraph.Proofs.Engine.Narrow
import RelGraph.Proofs.Mapping.Made

/-!
# Shared queries change no answer

Maps that are read by one query give the items that they give on their own: each map makes the same
items in the same order, limits and orders included, so that all the maps together give the same
items in some order.
-/

namespace RelGraph.Engine

open Rdf Sql Mapping Machine

variable {α ι : Type} [Member α ι]

/-! ### Queries of groups -/

namespace Group

/-- If the queries of all the members succeed, so does the query of the group. -/
theorem Lawful.exists_readRows {db : Database} {g : Group α} (hg : g.Lawful)
    (h : ∀ m ∈ g.members, ∃ rows, readRows db (Member.relation m) = .ok rows) :
  ∃ rows, readRows db g.relation = .ok rows
  := by
  rw [readRows]
  split
  · use []
  · rename_i he
    -- the members all read the same combinations, so each of them has the columns of all members
    split
    · use [Row.empty]
    · rename_i hdatabase
      have hmember : ∀ m ∈ g.members, ∃ envs, db.orderedEnvs ⟨g.relation⟩ = .ok envs
          ∧ ∀ env ∈ envs, env.Has (Member.relation m).projections := by
        intro m hm
        obtain ⟨hempty, -⟩ | ⟨-, hempty, hcovers⟩ := hg.serves m hm
        · contradiction
        · obtain ⟨rows, hrows⟩ := h m hm
          rw [readRows, hempty, if_neg Bool.false_ne_true, ← hcovers.database,
            if_neg hdatabase] at hrows
          obtain ⟨envs, henvs, hhas, -⟩ := Database.answer_eq_ok_iff.1 hrows
          rw [← hcovers.orderedEnvs_eq] at henvs
          use envs, henvs, hhas
      obtain ⟨m, hm⟩ := List.exists_mem_of_ne_nil _ hg.nonempty
      obtain ⟨envs, henvs, -⟩ := hmember m hm
      use Database.limited ⟨g.relation⟩ (Database.rowsOf g.relation envs)
      rw [Database.answer_eq_ok_iff]
      use envs, henvs
      constructor
      · intro env henv c hc
        obtain ⟨m, hm, hc⟩ := hg.projections c hc
        obtain ⟨envs', henvs', hhas⟩ := hmember m hm
        cases henvs.symm.trans henvs'
        apply hhas env henv c hc
      · rfl

end Group

/-! ### Items of maps that are read together -/

/-- Reading some maps together gives what reading each of them on its own gives. -/
structure Shares (db : Database) (ms : List α) : Prop where
  /-- Every map is in a group. -/
  partition : ((Group.ofList ms).flatMap Group.members).Perm ms
  /-- A map makes the same items of the rows of its group and of its own rows, in the same
  order. -/
  sequences : ∀ g ∈ Group.ofList ms, ∃ rows, readRows db g.relation = .ok rows
    ∧ ∀ m ∈ g.members, ∃ own, readRows db (Member.relation m) = .ok own
      ∧ rows.filterMap (Member.make? m) = own.filterMap (Member.make? m)
  /-- The items that the groups give, one after the other, are those of the maps in some order. -/
  items : ∃ iss, (Group.ofList ms).mapM (Group.answer db) = .ok iss
    ∧ iss.flatten.Perm (ms.flatMap (ownItems db))
    ∧ ∀ n, 0 < n
      → (Scan.memoryMachine α db n).Delivers (.ofMaps ms) Store.start (iss.flatten.map .ok)

theorem Shares.of_readRows {db : Database} {ms : List α}
    (hreads : ∀ m ∈ ms, Group.ReadsProjections m)
    (h : ∀ m ∈ ms, ∃ rows, readRows db (Member.relation m) = .ok rows) :
  Shares db ms
  := by
  have hgroups : ∀ g ∈ Group.ofList ms, ∃ rows, readRows db g.relation = .ok rows := by
    intro g hg
    apply (Group.lawful_of_mem_ofList ms g hg).exists_readRows
    intro m hm
    apply h m (Group.mem_of_mem_ofList hg hm)
  choose! rows hrows using hgroups
  have hanswer : ∀ g ∈ Group.ofList ms, g.answer db = .ok ((rows g).flatMap g.items) := by
    intro g hg
    rw [Group.answer_eq, hrows g hg]
    rfl
  constructor
  · apply Group.perm_members_ofList
  · intro g hg
    use rows g, hrows g hg
    intro m hm
    have hm' := Group.mem_of_mem_ofList hg hm
    obtain ⟨own, hown⟩ := h m hm'
    use own, hown
    have hitems := (Group.lawful_of_mem_ofList ms g hg).itemsOf_eq hm (hreads m hm') (hrows g hg)
    rw [itemsOf_eq, hown] at hitems
    apply (Except.ok.inj hitems).symm
  · use (Group.ofList ms).map fun g => (rows g).flatMap g.items, mapM_of_forall hanswer
    rw [← List.flatMap_def]
    use (Group.perm_ownItems_ofList hreads hanswer).2
    intro n hn
    have hgives := @Scan.gives_groups α ι _ db n hn (Group.ofList ms)
    have hdelivered : (Group.ofList ms).flatMap (fun g => delivered (g.answer db))
        = ((Group.ofList ms).flatMap fun g => (rows g).flatMap g.items).map .ok := by
      rw [List.map_flatMap]
      apply List.flatMap_congr
      intro g hg
      rw [hanswer g hg, delivered]
    rw [hdelivered] at hgives
    apply hgives.delivers live_start

/-- Sharing queries changes no answer: if the query of each solution map or of each triple map
succeeds, reading them together gives what reading each of them on its own gives. -/
theorem shares_of_made (db : Database) :
  (∀ ms : List SolutionMap, (∀ m ∈ ms, m.Made)
      → (∀ m ∈ ms, ∃ rows, readRows db m.relation = .ok rows) → Shares db ms)
    ∧ ∀ ms : List TripleMap, (∀ m ∈ ms, m.Made)
      → (∀ m ∈ ms, ∃ rows, readRows db m.relation = .ok rows) → Shares db ms
  := by
  constructor
  · intro ms hmade hrows
    apply Shares.of_readRows _ hrows
    intro m hm he row row' hrow
    apply SolutionMap.make?_congr
    intro c hc
    apply hrow c ((hmade m hm).mem_projections he hc)
  · intro ms hmade hrows
    apply Shares.of_readRows _ hrows
    intro m hm he row row' hrow
    apply TripleMap.make?_congr
    intro c hc
    apply hrow c (((hmade m hm).mem_projections_iff he).2 hc)

/-! ### An example -/

/-- The first two persons. -/
def firstPersons : Relation := (Relation.ofDatabase "db").asUnique.withLimit 2

/-- The IRI of a person. -/
def personTerm : TermMap :=
  .typed .iri (.template ⟨"ex:", [⟨⟨Plan.personTable, "id"⟩, .plain, ""⟩]⟩)

/-- The name of a person. -/
def nameTerm : TermMap := .typed .string (.column ⟨Plan.personTable, "name"⟩)

/-- The persons, and their names if they have any. -/
def firstPersonMaps : List SolutionMap :=
  [.ofRelation firstPersons [(⟨"person"⟩, personTerm)],
    .ofRelation firstPersons [(⟨"name"⟩, nameTerm)]]

/-- The triples of persons and of their names. -/
def firstPersonTriples : List TripleMap :=
  [.ofRelation firstPersons personTerm (.fixed (.iri ⟨"ex:type"⟩)) (.fixed (.iri ⟨"ex:Person"⟩)),
    .ofRelation firstPersons personTerm (.fixed (.iri ⟨"ex:name"⟩)) nameTerm]

theorem shares_of_made_firstPersons :
  (∀ m ∈ firstPersonMaps, m.Made)
    ∧ (∀ m ∈ firstPersonMaps, ∃ rows, readRows Plan.personDatabase m.relation = .ok rows)
    ∧ (∀ m ∈ firstPersonTriples, m.Made)
    ∧ (∀ m ∈ firstPersonTriples, ∃ rows, readRows Plan.personDatabase m.relation = .ok rows)
    ∧ (Group.ofList firstPersonMaps).map (fun g => g.members) = [firstPersonMaps]
    ∧ (Group.ofList firstPersonTriples).map (fun g => g.members) = [firstPersonTriples]
    ∧ Shares Plan.personDatabase firstPersonMaps ∧ Shares Plan.personDatabase firstPersonTriples
  := by
  have hmaps : ∀ m ∈ firstPersonMaps, m.Made := by
    simp only [firstPersonMaps, List.forall_mem_cons]
    use .ofRelation _ _, .ofRelation _ _
    simp
  have htriples : ∀ m ∈ firstPersonTriples, m.Made := by
    simp only [firstPersonTriples, List.forall_mem_cons]
    use .ofRelation _ _ _ _, .ofRelation _ _ _ _
    simp
  have hread : (∀ m ∈ firstPersonMaps, (readRows Plan.personDatabase m.relation).toOption.isSome)
      ∧ ∀ m ∈ firstPersonTriples, (readRows Plan.personDatabase m.relation).toOption.isSome := by
    decide
  have hok : ∀ {r}, (readRows Plan.personDatabase r).toOption.isSome
      → ∃ rows, readRows Plan.personDatabase r = .ok rows := by
    intro r h
    obtain ⟨rows, hrows⟩ := Option.isSome_iff_exists.1 h
    use rows, eq_ok_of_toOption hrows
  have h := shares_of_made Plan.personDatabase
  use hmaps, fun m hm => hok (hread.1 m hm), htriples, fun m hm => hok (hread.2 m hm)
  use by decide, by decide
  constructor
  · apply h.1 _ hmaps fun m hm => hok (hread.1 m hm)
  · apply h.2 _ htriples fun m hm => hok (hread.2 m hm)

end RelGraph.Engine
