import Mathlib.Data.List.Sections
import RelGraph.Proofs.Sql.JoinAll
import RelGraph.Proofs.Sql.Normal
import RelGraph.Proofs.Sql.Places

/-!
# Joined relations as products

A place of a join is a choice of one place of each relation, since the relations have no table in
common.  So the rows of a join are the concatenations of one row of each relation.  There is one
exception: a join keeps one order only, and a table that is mentioned by no more than an order that
is lost is not read by the join.
-/

namespace RelGraph.Sql

/-! ### Choices from lists -/

section

variable {α β : Type}

theorem nodup_sections {L : List (List α)} (h : ∀ l ∈ L, l.Nodup) :
  L.sections.Nodup
  := by
  induction L with
  | nil => simp
  | cons l L ih =>
    rw [List.forall_mem_cons] at h
    rw [List.sections, List.nodup_flatMap]
    constructor
    · intro s _
      apply h.1.map
      intro a b hab
      apply (List.cons.inj hab).1
    · apply (ih h.2).imp
      intro s t hne x hs ht
      obtain ⟨a, -, rfl⟩ := List.mem_map.1 hs
      obtain ⟨b, -, hab⟩ := List.mem_map.1 ht
      apply hne (List.cons.inj hab).2.symm

theorem perm_sections {bs : List β} {f g : β → List α} (h : ∀ b ∈ bs, (f b).Perm (g b)) :
  (bs.map f).sections.Perm (bs.map g).sections
  := by
  induction bs with
  | nil => rfl
  | cons b bs ih =>
    rw [List.forall_mem_cons] at h
    apply (ih h.2).flatMap
    intro s _
    apply h.1.map

theorem mem_sections_map {bs : List β} {f : β → List α} {as : List α} :
  as ∈ (bs.map f).sections ↔ List.Forall₂ (fun a b => a ∈ f b) as bs
  := by
  rw [List.mem_sections, List.forall₂_map_right_iff]

theorem forall₂_of_mem {R S : α → β → Prop} {as : List α} {bs : List β}
    (h : ∀ b ∈ bs, ∀ a, R a b → S a b) (hR : List.Forall₂ R as bs) :
  List.Forall₂ S as bs
  := by
  rw [List.forall₂_iff_zip] at hR ⊢
  use hR.1
  intro a b hab
  apply h b (List.of_mem_zip hab).2 a (hR.2 hab)

theorem exists_mem_of_mem_sections_map {bs : List β} {f : β → List α} {as : List α}
    (h : as ∈ (bs.map f).sections) {b : β} (hb : b ∈ bs) :
  ∃ a, a ∈ f b
  := by
  rw [mem_sections_map] at h
  induction h with
  | nil => cases hb
  | cons hab _ ih =>
    obtain rfl | hb := List.mem_cons.1 hb
    · exact ⟨_, hab⟩
    · apply ih hb

/-- Choices of images are images of choices. -/
theorem sections_map_map {γ : Type} (bs : List β) (f : β → List α) (g : β → α → γ) :
  (bs.map fun b => (f b).map (g b)).sections = (bs.map f).sections.map (List.zipWith g bs)
  := by
  induction bs with
  | nil => rfl
  | cons b bs ih =>
    rw [List.map_cons, List.map_cons, List.sections, List.sections, ih, List.flatMap_map,
      List.map_flatMap]
    simp only [List.map_map]
    rfl

end

/-- The row with the cells of some rows. -/
def Row.concat (rows : List Row) : Row := .ofCells (rows.flatMap Row.cells)

namespace Relation

open Expr Database

/-! ### Functions on the tables of some relations -/

/-- The function that has the values of some functions on the tables of the relations. -/
def glue {γ : Type} (d : γ) : List Relation → List (Table → γ) → Table → γ
  | r :: rs, f :: fs, t => if t ∈ r.tables then f t else glue d rs fs t
  | _, _, _ => d

theorem glue_eq {γ : Type} {d : γ} {rs : List Relation} {fs : List (Table → γ)}
    (hapart : rs.Pairwise Apart) (hlength : fs.length = rs.length) :
  List.Forall₂ (fun f r => ∀ t ∈ r.tables, glue d rs fs t = f t) fs rs
  := by
  induction rs generalizing fs with
  | nil => simpa using hlength
  | cons r rs ih =>
    cases fs with
    | nil => cases hlength
    | cons f fs =>
      rw [List.pairwise_cons] at hapart
      constructor
      · intro t ht
        rw [glue, if_pos ht]
      · apply forall₂_of_mem _ (ih hapart.2 (Nat.succ.inj hlength))
        intro s hs f hf t ht
        rw [glue, if_neg fun hr => hapart.1 s hs t hr ht]
        apply hf t ht

theorem glue_of_notMem {γ : Type} {d : γ} {rs : List Relation} {fs : List (Table → γ)} {t : Table}
    (ht : ∀ r ∈ rs, t ∉ r.tables) :
  glue d rs fs t = d
  := by
  induction rs generalizing fs with
  | nil => rfl
  | cons r rs ih =>
    rw [List.forall_mem_cons] at ht
    cases fs with
    | nil => rfl
    | cons f fs => rw [glue, if_neg ht.1, ih ht.2]

/-! ### Places of joins -/

/-- The places in the tables of each relation. -/
def split (rs : List Relation) (i : Place) : List Place := rs.map fun r => i.under r.tables id

section

variable {rs : List Relation} {j : Relation} {db : Database} {rows : List Row}
  {answers : Relation → List Row} {places : List Place} {placesOf : Relation → List Place}

theorem split_glue {is : List Place} (hapart : rs.Pairwise Apart)
    (his : List.Forall₂ (fun i r => ∀ t ∉ r.tables, i t = 0) is rs) :
  split rs (glue 0 rs is) = is
  := by
  have hsame : List.Forall₂ (fun i r => Place.under (glue 0 rs is) r.tables id = i) is rs := by
    have hglue := glue_eq (d := 0) hapart his.length_eq
    rw [List.forall₂_iff_zip] at his hglue ⊢
    use his.1
    intro i r hir
    funext t
    rw [Place.under]
    split_ifs with ht
    · apply hglue.2 hir t ht
    · apply (his.2 hir t ht).symm
  rw [split, ← List.forall₂_eq_eq_eq, List.forall₂_map_left_iff]
  apply hsame.flip

/-- The row of a place of the join has the cells of the rows of its places. -/
theorem Joins.rowAt_eq (h : Joins rs j) (hsound : ∀ r ∈ rs, r.Sound)
    (hj : Increasing j.projections) (i : Place) :
  j.rowAt db i = Row.concat (List.zipWith (fun r i => r.rowAt db i) rs (split rs i))
  := by
  have hrow : ∀ r ∈ rs, r.rowAt db (i.under r.tables id)
      = Row.sample r.projections (db.pickAt j.aliases i).cell := by
    intro r hr
    apply rowAt_under (h.tableOf r hr) (hsound r hr)
  rw [split, List.zipWith_map_right, List.zipWith_self, List.map_congr_left hrow]
  apply Row.sample_eq_ofCells hj
  rintro ⟨c, cell⟩
  simp only [List.flatMap_map, List.mem_flatMap, h.projections, Row.cells_sample, List.mem_map]
  constructor
  · rintro ⟨r, hr, d, hd, heq⟩
    cases heq
    exact ⟨⟨r, hr, hd⟩, rfl⟩
  · rintro ⟨⟨r, hr, hc⟩, rfl⟩
    use r, hr, c

/-- The places of a join are the choices of one place of each relation. -/
theorem Joins.perm_places (h : Joins rs j) (hsound : ∀ r ∈ rs, r.Sound)
    (hapart : rs.Pairwise Apart) (hread : j.ReadFrom db rows places)
    (hreads : ∀ r ∈ rs, r.ReadFrom db (answers r) (placesOf r)) :
  (places.map (split rs)).Perm (rs.map placesOf).sections
  := by
  have hnodup : (places.map (split rs)).Nodup := by
    apply hread.nodup.map_on
    intro i hi i' hi' heq
    apply eq_of_mem_places j.nodup_tables ((hread.mem_iff i).1 hi).1 ((hread.mem_iff i').1 hi').1
    intro t ht
    obtain ⟨r, hr, ht⟩ := (h.tables t).1 ht
    simpa [Place.under, ht] using congrFun (List.map_inj_left.1 heq r hr) t
  have hnodup' : (rs.map placesOf).sections.Nodup := by
    apply nodup_sections
    rw [List.forall_mem_map]
    intro r hr
    apply (hreads r hr).nodup
  rw [List.perm_ext_iff_of_nodup hnodup hnodup']
  intro is
  rw [List.mem_map, mem_sections_map]
  constructor
  · rintro ⟨i, hi, rfl⟩
    obtain ⟨hi, hholds⟩ := (hread.mem_iff i).1 hi
    rw [split, List.forall₂_map_left_iff, List.forall₂_same]
    intro r hr
    rw [(hreads r hr).mem_iff]
    constructor
    · apply under_mem_places (h.tableOf r hr) j.nodup_tables _ hi
      intro t ht
      apply (h.tables t).2 ⟨r, hr, ht⟩
    · apply (holds_under_iff (h.tableOf r hr) (hsound r hr) i).2
      apply h.holds_iff.1 hholds r hr
  · intro his
    have hsplit : split rs (glue 0 rs is) = is := by
      apply split_glue hapart
      apply forall₂_of_mem _ his
      intro r hr i hi
      apply ((mem_places_iff r.nodup_tables).1 (((hreads r hr).mem_iff i).1 hi).1).2
    refine ⟨glue 0 rs is, ?_, hsplit⟩
    rw [← hsplit, split, List.forall₂_map_left_iff, List.forall₂_same] at his
    rw [hread.mem_iff, mem_places_iff j.nodup_tables]
    refine ⟨⟨?_, ?_⟩, ?_⟩
    · intro t ht
      obtain ⟨r, hr, ht⟩ := (h.tables t).1 ht
      have hplace := (((hreads r hr).mem_iff _).1 (his r hr)).1
      have hlt := ((mem_places_iff r.nodup_tables).1 hplace).1 t ht
      rw [Place.under, if_pos ht] at hlt
      rw [h.tableOf r hr t ht]
      apply hlt
    · intro t ht
      apply glue_of_notMem
      intro r hr htr
      apply ht ((h.tables t).2 ⟨r, hr, htr⟩)
    · apply h.holds_iff.2
      intro r hr
      apply (holds_under_iff (h.tableOf r hr) (hsound r hr) _).1
      apply (((hreads r hr).mem_iff _).1 (his r hr)).2

/-! ### Rows of joins -/

theorem eq_empty_of_joinFrom {joined : Relation} (he : j.isEmpty = true)
    (h : joined.joinFrom rs = .ok j) :
  j = empty
  := by
  induction rs generalizing joined with
  | nil =>
    rw [joinFrom] at h
    split at h
    · cases h
      rfl
    · rename_i hne
      cases h
      contradiction
  | cons r rs ih =>
    rw [joinFrom] at h
    split at h
    · cases h
      rfl
    · split at h
      · apply ih h
      · cases h

theorem increasing_projections_joinFrom {joined : Relation} (hjoined : Increasing joined.projections)
    (h : joined.joinFrom rs = .ok j) :
  Increasing j.projections
  := by
  induction rs generalizing joined with
  | nil =>
    rw [joinFrom] at h
    cases h
    split
    · apply List.Pairwise.nil
    · apply hjoined
  | cons r rs ih =>
    rw [joinFrom] at h
    split at h
    · cases h
      apply List.Pairwise.nil
    · split at h
      · rename_i joined' hjoined'
        apply ih _ h
        obtain ⟨database, aliases, -, -, rfl⟩ := joinTwo_eq_ok hjoined'
        apply increasing_canonical
      · cases h

/-- There is no choice of rows if the conditions contradict each other. -/
theorem sections_eq_nil (hsound : ∀ r ∈ rs, r.Sound) (hapart : rs.Pairwise Apart)
    (hrows : ∀ r ∈ rs, db.answer ⟨r⟩ = .ok (answers r))
    (hnone : ∀ cells, ¬ ∀ r ∈ rs,
      (∀ j ∈ r.joins, HoldsAt cells j.toExpr) ∧ HoldsAt cells r.condition) :
  (rs.map answers).sections = []
  := by
  rw [List.eq_nil_iff_forall_not_mem]
  intro rows hmem
  have hpick : ∀ r ∈ rs, ∃ pick, r.Holds db pick := by
    intro r hr
    obtain ⟨row, hrow⟩ := exists_mem_of_mem_sections_map hmem hr
    obtain ⟨pick, hpick, -⟩ := (mem_answer_iff (hsound r hr) (hrows r hr)).1 hrow
    use pick
  choose! pickOf hpickOf using hpick
  -- the picks of the relations make one pick, on which all the conditions are true
  have hlength : (rs.map pickOf).length = rs.length := List.length_map _
  have hglue := glue_eq (d := []) hapart hlength
  rw [List.forall₂_map_left_iff, List.forall₂_same] at hglue
  apply hnone (Pick.cell (glue [] rs (rs.map pickOf)))
  intro r hr
  have hholds : r.Holds db (glue [] rs (rs.map pickOf)) := by
    apply (hpickOf r hr).congr (hsound r hr)
    intro t ht
    apply (hglue r hr t ht).symm
  exact ⟨hholds.joins, hholds.condition⟩

/-- The rows of a join are the concatenations of one row of each relation, each as often as there
are such choices if the relations are unique.  The relations have no table in common, and a table
of a relation is mentioned by more than an order that is lost. -/
theorem joinAll_product (hdb : db.Rectangular) (hsound : ∀ r ∈ rs, r.Sound)
    (hfits : ∀ r ∈ rs, r.Fits db) (hapart : rs.Pairwise Apart)
    (horder : rs.Pairwise fun r s => r.order = none ∨ s.Anchored) (h : joinAll rs = .ok j) :
  ∃ rows answers, db.answer ⟨j⟩ = .ok rows ∧ (∀ r ∈ rs, db.answer ⟨r⟩ = .ok (answers r))
    ∧ (∀ row, row ∈ rows ↔ row ∈ (rs.map answers).sections.map Row.concat)
    ∧ ((∀ r ∈ rs, r.unique = true) → rows.Perm ((rs.map answers).sections.map Row.concat))
  := by
  have hanswer : ∀ r ∈ rs, ∃ rows, db.answer ⟨r⟩ = .ok rows := by
    intro r hr
    obtain ⟨rows, hrows, -⟩ := exists_answer (hsound r hr) (hfits r hr) hdb
    use rows
  choose! answers hanswers using hanswer
  obtain ⟨he, hjoins⟩ | ⟨he, hnone⟩ := joinAll_cases hsound hapart horder h
  · obtain ⟨rows, hrows, -⟩ := exists_answer hjoins.sound (hjoins.fits hsound hfits) hdb
    use rows, answers, hrows, hanswers
    obtain ⟨places, hread⟩ := exists_readFrom hjoins.sound hrows
    have hplaces : ∀ r ∈ rs, ∃ places, r.ReadFrom db (answers r) places := by
      intro r hr
      apply exists_readFrom (hsound r hr) (hanswers r hr)
    choose! placesOf hreads using hplaces
    have hincreasing : Increasing j.projections := by
      apply increasing_projections_joinFrom _ h
      apply List.Pairwise.nil
    have hperm : (places.map (j.rowAt db)).Perm
        ((rs.map fun r => (placesOf r).map (r.rowAt db)).sections.map Row.concat) := by
      have hchoices := ((hjoins.perm_places hsound hapart hread hreads).map
        (List.zipWith (fun r i => r.rowAt db i) rs)).map Row.concat
      rw [List.map_map, List.map_map, ← sections_map_map] at hchoices
      rw [List.map_congr_left fun i _ => hjoins.rowAt_eq hsound hincreasing i]
      apply hchoices
    constructor
    · intro row
      rw [hread.mem_rows_iff hjoins.sound hrows, hperm.mem_iff, List.mem_map, List.mem_map]
      have hsame : ∀ is, is ∈ (rs.map fun r => (placesOf r).map (r.rowAt db)).sections
          ↔ is ∈ (rs.map answers).sections := by
        intro is
        rw [mem_sections_map, mem_sections_map]
        constructor
        · apply forall₂_of_mem
          intro r hr row hrow
          rwa [(hreads r hr).mem_rows_iff (hsound r hr) (hanswers r hr)]
        · apply forall₂_of_mem
          intro r hr row hrow
          rwa [← (hreads r hr).mem_rows_iff (hsound r hr) (hanswers r hr)]
      simp only [hsame]
    · intro hunique
      apply (hread.perm (hjoins.unique.2 hunique)).trans
      apply hperm.trans
      apply List.Perm.map
      apply perm_sections
      intro r hr
      apply ((hreads r hr).perm (hunique r hr)).symm
  · have hanswer : db.answer ⟨j⟩ = .ok [] := by
      rw [eq_empty_of_joinFrom he h]
      rfl
    use [], answers, hanswer, hanswers
    rw [sections_eq_nil hsound hapart hanswers hnone]
    simp

end

/-! ### Examples -/

/-- The column of a table without a schema. -/
def plainColumn (table name : String) : Column := ⟨⟨none, table⟩, name⟩

/-- Some columns of a table, where rows may repeat, in the order of a column. -/
def listing (columns : List Column) (order : Option Column) : Relation :=
  { ofDatabase "db" with
    projections := columns
    unique := true
    order := order.map fun c => (c, .ascending) }

/-- Two equal things, a shelf with its keeper, and no room. -/
def shelfDatabase : Database where
  tables := .ofList [
    (⟨none, "thing"⟩, ⟨["name"], [[some "pen"], [some "pen"]]⟩),
    (⟨none, "shelf"⟩, ⟨["no"], [[some "A"]]⟩),
    (⟨none, "keeper"⟩, ⟨["name"], [[some "Ann"]]⟩),
    (⟨none, "room"⟩, ⟨["no"], []⟩)]
  failsOnClose := false

/-- The names of things. -/
def things : Relation := listing [plainColumn "thing" "name"] none

/-- The numbers of shelves in their order. -/
def shelves : Relation := listing [plainColumn "shelf" "no"] (some (plainColumn "shelf" "no"))

/-- The names of keepers in their order. -/
def keepers : Relation := listing [plainColumn "keeper" "name"] (some (plainColumn "keeper" "name"))

/-- The rooms in their order, of which no column is read. -/
def rooms : Relation := listing [] (some (plainColumn "room" "no"))

/-- A thing, a shelf and a keeper. -/
def shelfRow : Row := ⟨[(plainColumn "keeper" "name", some "Ann"),
  (plainColumn "shelf" "no", some "A"), (plainColumn "thing" "name", some "pen")]⟩

theorem rectangular_shelfDatabase :
  shelfDatabase.Rectangular
  := by
  intro t data hdata
  rw [show shelfDatabase.tables = .ofList _ from rfl, SortedMap.get?_ofList] at hdata
  have hmem := SortedMap.mem_of_find? hdata
  simp only [List.mem_reverse, List.mem_cons, List.not_mem_nil, or_false, Prod.mk.injEq] at hmem
  obtain ⟨-, rfl⟩ | ⟨-, rfl⟩ | ⟨-, rfl⟩ | ⟨-, rfl⟩ := hmem <;> decide

theorem sound_listing (columns : List Column) (order : Option Column) :
  (listing columns order).Sound
  := by
  constructor
  · rfl
  · rfl
  · rfl
  · intro j hj
    cases hj

theorem fits_shelfDatabase :
  ∀ r ∈ [things, shelves, keepers, rooms], r.Fits shelfDatabase
  := by
  simp only [List.forall_mem_cons]
  refine ⟨?_, ?_, ?_, ?_, by simp⟩ <;> apply fits_of_any <;> decide

theorem joinAll_product_shelves :
  shelfDatabase.Rectangular
    ∧ (∀ r ∈ [shelves, things, keepers], r.Sound)
    ∧ (∀ r ∈ [shelves, things, keepers], r.Fits shelfDatabase)
    ∧ [shelves, things, keepers].Pairwise Apart
    ∧ [shelves, things, keepers].Pairwise (fun r s => r.order = none ∨ s.Anchored)
    ∧ (∀ r ∈ [shelves, things, keepers], r.unique = true)
    ∧ ∃ j rows, joinAll [shelves, things, keepers] = .ok j ∧ shelfDatabase.answer ⟨j⟩ = .ok rows
      ∧ rows.Perm [shelfRow, shelfRow]
  := by
  have hsound : ∀ r ∈ [shelves, things, keepers], r.Sound := by
    simp [things, shelves, keepers, sound_listing]
  have hfits : ∀ r ∈ [shelves, things, keepers], r.Fits shelfDatabase := by
    simp [fits_shelfDatabase]
  have hapart : [shelves, things, keepers].Pairwise Apart := by
    simp only [List.pairwise_cons, List.Pairwise.nil, Apart]
    decide
  have hanchored : ∀ r ∈ [things, keepers], r.Anchored := by
    simp only [List.forall_mem_cons, Anchored]
    decide
  have horder : [shelves, things, keepers].Pairwise
      fun r s => r.order = none ∨ s.Anchored := by
    simp only [List.forall_mem_cons] at hanchored
    simp [hanchored]
  have hunique : ∀ r ∈ [shelves, things, keepers], r.unique = true := by decide
  have hjoin : joinAll [shelves, things, keepers]
      = .ok ((joinAll [shelves, things, keepers]).toOption.getD empty) := by
    apply eq_ok_of_toOption
    decide
  obtain ⟨rows, answers, hrows, hanswers, -, hperm⟩ :=
    joinAll_product rectangular_shelfDatabase hsound hfits hapart horder hjoin
  refine ⟨rectangular_shelfDatabase, hsound, hfits, hapart, horder, hunique, _, rows, hjoin,
    hrows, ?_⟩
  have hproduct : (shelfDatabase.answer ⟨shelves⟩).toOption.bind (fun ss =>
      (shelfDatabase.answer ⟨things⟩).toOption.bind fun ts =>
        (shelfDatabase.answer ⟨keepers⟩).toOption.map fun ks =>
          [ss, ts, ks].sections.map Row.concat) = some [shelfRow, shelfRow] := by
    decide +kernel
  simp only [hanswers shelves (by simp), hanswers things (by simp), hanswers keepers (by simp)]
    at hproduct
  rw [← Option.some.inj hproduct]
  apply hperm hunique

/-- The order of the rooms is lost, and with it their table: the join has the rows of the shelves
although there is no room. -/
theorem rooms_lost_by_joinAll :
  shelfDatabase.Rectangular
    ∧ (∀ r ∈ [shelves, rooms], r.isEmpty = false ∧ r.Sound ∧ r.condition.Built
      ∧ r.Fits shelfDatabase ∧ r.unique = true)
    ∧ [shelves, rooms].Pairwise Apart
    ∧ ∃ row, shelfDatabase.answer ⟨shelves⟩ = .ok [row] ∧ shelfDatabase.answer ⟨rooms⟩ = .ok []
    ∧ [[row], []].sections.map Row.concat = []
    ∧ ∃ j, joinAll [shelves, rooms] = .ok j ∧ shelfDatabase.answer ⟨j⟩ = .ok [row]
  := by
  have hrelations : ∀ r ∈ [shelves, rooms], r.isEmpty = false ∧ r.Sound ∧ r.condition.Built
      ∧ r.Fits shelfDatabase ∧ r.unique = true := by
    simp only [List.forall_mem_cons]
    refine ⟨⟨rfl, sound_listing _ _, .always, fits_shelfDatabase _ (by simp), rfl⟩,
      ⟨rfl, sound_listing _ _, .always, fits_shelfDatabase _ (by simp), rfl⟩, by simp⟩
  have hapart : [shelves, rooms].Pairwise Apart := by
    rw [List.pairwise_pair, Apart]
    decide
  have hshelves : shelfDatabase.answer ⟨shelves⟩
      = .ok [⟨[(plainColumn "shelf" "no", some "A")]⟩] := by
    apply eq_ok_of_toOption
    decide +kernel
  have hrooms : shelfDatabase.answer ⟨rooms⟩ = .ok [] := by
    apply eq_ok_of_toOption
    decide +kernel
  have hjoin : joinAll [shelves, rooms] = .ok shelves := by
    apply eq_ok_of_toOption
    decide
  exact ⟨rectangular_shelfDatabase, hrelations, hapart, _, hshelves, hrooms, rfl, shelves, hjoin,
    hshelves⟩

end Relation

end RelGraph.Sql
