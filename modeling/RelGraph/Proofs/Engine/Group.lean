import RelGraph.Engine.Group
import RelGraph.Proofs.Mapping.Narrowing

/-!
# Answers of shared queries

A group reads the rows of each of its members, with more columns.  So the items of some groups are
the items that their members have on their own, in another order.
-/

namespace RelGraph.Engine

open Rdf Sql Mapping

variable {db : Database} {q r : Relation}

/-! ### Relations that differ in their columns -/

/-- The relations differ in their columns only. -/
structure Alike (q r : Relation) : Prop where
  database : q.database = r.database
  joins : q.joins = r.joins
  condition : q.condition = r.condition
  order : q.order = r.order
  limit : q.limit = r.limit
  limitInverse : q.limitInverse = r.limitInverse
  unique : q.unique = r.unique
  tables : q.tables = r.tables
  tableOf : ∀ t ∈ q.tables, q.aliases.tableOf t = r.aliases.tableOf t

/-- The relation has the rows of another one, with more columns. -/
structure Covers (q r : Relation) : Prop extends Alike q r where
  projections : ∀ c ∈ r.projections, c ∈ q.projections
  distinct : q.unique = true ∨ q.projections = r.projections

theorem Covers.refl (r : Relation) :
  Covers r r
  := by
  constructor
  · constructor <;> simp
  · simp
  · simp

/-- A relation without repeated rows covers another one when it reads the columns of the other
one. -/
theorem Alike.covers_project (h : Alike q r) (he : q.isEmpty = false) (hu : q.unique = true)
    {cs : List Column} (ht : (q.project cs).tables = q.tables) (hcs : ∀ c ∈ r.projections, c ∈ cs) :
  Covers (q.project cs) r
  := by
  have hproject := Relation.project_of_not_isEmpty he cs
  constructor
  · constructor
    · rw [hproject, h.database]
    · rw [hproject, h.joins]
    · rw [hproject, h.condition]
    · rw [hproject, h.order]
    · rw [hproject, h.limit]
    · rw [hproject, h.limitInverse]
    · rw [hproject, h.unique]
    · rw [ht, h.tables]
    · rw [ht, hproject]
      apply h.tableOf
  · intro c hc
    rw [hproject, mem_canonical]
    apply hcs c hc
  · left
    rw [hproject, hu]

/-- The relation covers another one, or neither of them has rows. -/
def Serves (q r : Relation) : Prop :=
  (q.isEmpty = true ∧ r.isEmpty = true) ∨ (q.isEmpty = false ∧ r.isEmpty = false ∧ Covers q r)

theorem Serves.refl (r : Relation) :
  Serves r r
  := by
  cases h : r.isEmpty with
  | true => exact Or.inl ⟨h, h⟩
  | false => exact Or.inr ⟨h, h, Covers.refl r⟩

theorem combine_congr {aliases aliases' : Aliases} {ts : List Table}
    (h : ∀ t ∈ ts, aliases.tableOf t = aliases'.tableOf t) (envs : List Env) :
  db.combine aliases envs ts = db.combine aliases' envs ts
  := by
  induction ts generalizing envs with
  | nil => rfl
  | cons t ts ih =>
    rw [List.forall_mem_cons] at h
    simp only [Database.combine, Database.envsOf, h.1, ih h.2]

theorem Alike.orderedEnvs_eq (h : Alike q r) :
  db.orderedEnvs ⟨q⟩ = db.orderedEnvs ⟨r⟩
  := by
  rw [Database.orderedEnvs, Database.orderedEnvs, combine_congr h.tableOf]
  simp only [Database.fullCondition, Select.orderAndLimit, h.joins, h.condition, h.order, h.limit,
    h.limitInverse, h.tables]

theorem Alike.limited_eq (h : Alike q r) (rows : List Row) :
  Database.limited ⟨q⟩ rows = Database.limited ⟨r⟩ rows
  := by
  simp only [Database.limited, Select.orderAndLimit, h.order, h.limit, h.limitInverse]

theorem map_limited (q : Select) (f : Row → Row) (rows : List Row) :
  (Database.limited q rows).map f = Database.limited q (rows.map f)
  := by
  rw [Database.limited, Database.limited]
  split
  · apply List.map_take
  · rfl

/-- The rows of a relation that covers another one are those of the other one, once they are
reread. -/
theorem Covers.rowsOf_eq (h : Covers q r) (envs : List Env) :
  (Database.rowsOf q envs).map (Relation.reread r.projections) = Database.rowsOf r envs
  := by
  have hmap : (envs.map (Database.rowOf q.projections)).map (Relation.reread r.projections)
      = envs.map (Database.rowOf r.projections) := by
    rw [List.map_map]
    apply List.map_congr_left
    intro env _
    apply Relation.reread_rowOf h.projections env
  rw [Database.rowsOf, Database.rowsOf, h.unique]
  split
  · apply hmap
  · rename_i hu
    have hsame : ∀ row ∈ Database.dedup [] (envs.map (Database.rowOf r.projections)),
        Relation.reread r.projections row = id row := by
      intro row hrow
      obtain ⟨env, -, rfl⟩ := List.mem_map.1 (Database.mem_dedup.1 hrow).1
      apply Relation.reread_rowOf (fun c hc => hc)
    rw [h.distinct.resolve_left (by rw [h.unique]; apply hu), List.map_congr_left hsame,
      List.map_id]

/-- If a query succeeds, so does the one for fewer columns, with the same rows. -/
theorem Covers.answer_eq (h : Covers q r) {rows : List Row} (hrows : db.answer ⟨q⟩ = .ok rows) :
  db.answer ⟨r⟩ = .ok (rows.map (Relation.reread r.projections))
  := by
  obtain ⟨envs, henvs, hhas, rfl⟩ := Database.answer_eq_ok_iff.1 hrows
  rw [Database.answer_eq_ok_iff]
  use envs, by rw [← h.orderedEnvs_eq, henvs]
  constructor
  · intro env henv c hc
    apply hhas env henv c (h.projections c hc)
  · rw [map_limited, h.rowsOf_eq, h.limited_eq]

/-! ### Rows that are read -/

/-- The rows of a relation that are read.  A relation without rows is not asked for, and one
without tables has a single row without cells. -/
def readRows (db : Database) (r : Relation) : Except DatabaseError (List Row) :=
  if r.isEmpty then .ok []
  else if r.database.isNone then .ok [Row.empty]
  else db.answer ⟨r⟩

/-- The rows have the same cells in some columns. -/
def SameCells (cs : List Column) (rows rows' : List Row) : Prop :=
  List.Forall₂ (fun row row' => ∀ c ∈ cs, row.get? c = row'.get? c) rows rows'

/-- What is read for a relation is read for each relation that it serves. -/
theorem Serves.readRows_eq (h : Serves q r) {rows : List Row} (hrows : readRows db q = .ok rows) :
  ∃ own, readRows db r = .ok own ∧ SameCells r.projections rows own
  := by
  obtain ⟨hq, hr⟩ | ⟨hq, hr, hcovers⟩ := h
  · rw [readRows, if_pos hq] at hrows
    cases hrows
    use [], by rw [readRows, if_pos hr]
    apply List.Forall₂.nil
  · rw [readRows, hq, if_neg Bool.false_ne_true, hcovers.database] at hrows
    rw [readRows, hr, if_neg Bool.false_ne_true]
    split at hrows
    · rename_i hdatabase
      cases hrows
      use [Row.empty], if_pos hdatabase
      simp [SameCells]
    · rename_i hdatabase
      use rows.map (Relation.reread r.projections)
      rw [if_neg hdatabase]
      use hcovers.answer_eq hrows
      rw [SameCells, List.forall₂_map_right_iff, List.forall₂_same]
      intro row _ c hc
      rw [Relation.get?_reread row hc]

/-! ### Members of groups -/

variable {α ι : Type} [Member α ι]

/-- The items of a map that is read on its own. -/
def itemsOf (db : Database) (m : α) : Except DatabaseError (List ι) :=
  if (Member.relation m).isEmpty then .ok []
  else if (Member.relation m).database.isNone then .ok (Member.make? m Row.empty).toList
  else (fun rows => rows.filterMap (Member.make? m)) <$> db.answer ⟨Member.relation m⟩

theorem itemsOf_eq (db : Database) (m : α) :
  itemsOf db m = (fun rows => rows.filterMap (Member.make? m)) <$> readRows db (Member.relation m)
  := by
  rw [itemsOf, readRows]
  split
  · rfl
  · split
    · cases h : Member.make? m Row.empty <;> simp [h]
    · rfl

/-- The items of a map that is read on its own, none if this fails. -/
def ownItems (db : Database) (m : α) : List ι := (itemsOf db m).toOption.getD []

theorem ownItems_eq {m : α} {is : List ι} (h : itemsOf db m = .ok is) :
  ownItems db m = is
  := by
  rw [ownItems, h]
  rfl

namespace Group

/-- The items of a group. -/
def answer (db : Database) (g : Group α) : Except DatabaseError (List ι) :=
  if g.relation.isEmpty then .ok []
  else if g.relation.database.isNone then .ok (g.items Row.empty)
  else (fun rows => rows.flatMap g.items) <$> db.answer g.query

theorem answer_eq (db : Database) (g : Group α) :
  g.answer db = (fun rows => rows.flatMap g.items) <$> readRows db g.relation
  := by
  rw [answer, readRows]
  split
  · rfl
  · split
    · simp
    · rfl

/-- A single map is read on its own. -/
theorem answer_single (db : Database) (m : α) :
  (single m).answer db = itemsOf db m
  := by
  have hitems : ∀ row, (single m).items row = (Member.make? m row).toList := by
    intro row
    rw [items, List.filterMap_eq_flatMap_toList, single, List.flatMap_singleton]
  have hrows : ∀ rows : List Row,
      rows.flatMap (single m).items = rows.filterMap (Member.make? m) := by
    intro rows
    rw [List.filterMap_eq_flatMap_toList]
    apply List.flatMap_congr
    intro row _
    apply hitems
  simp only [answer, itemsOf, hitems, hrows]
  rfl

theorem accepts_iff {g : Group α} {r : Relation} :
  g.accepts r = true ↔ g.relation.database.isSome ∧ g.relation.unique = true ∧ Alike g.relation r
  := by
  simp only [accepts, Bool.and_eq_true, decide_eq_true_eq, List.all_eq_true]
  constructor
  · rintro ⟨⟨⟨⟨⟨⟨⟨⟨⟨⟨hsome, hd⟩, hu⟩, hu'⟩, hj⟩, hc⟩, ho⟩, hl⟩, hi⟩, ht⟩, ha⟩
    use hsome, hu, hd, hj, hc, ho, hl, hi, by rw [hu, hu'], ht, ha
  · rintro ⟨hsome, hu, h⟩
    use ⟨⟨⟨⟨⟨⟨⟨⟨⟨hsome, h.database⟩, hu⟩, by rw [← h.unique, hu]⟩, h.joins⟩, h.condition⟩,
      h.order⟩, h.limit⟩, h.limitInverse⟩, h.tables⟩, h.tableOf

/-- Reading more columns of the same tables adds no tables. -/
theorem tables_project_append (he : q.isEmpty = false) (h : q.tables = r.tables) :
  (q.project (q.projections ++ r.projections)).tables = q.tables
  := by
  have hr : ∀ c ∈ r.projections, c.table ∈ q.tables := by
    intro c hc
    rw [h, Relation.tables, mem_canonical]
    simp only [List.mem_append, List.mem_map]
    left; right
    use c
  rw [Relation.project_of_not_isEmpty he]
  rw [Relation.tables] at hr ⊢
  rw [Relation.tables]
  apply canonical_congr
  intro t
  simp only [List.mem_append, List.mem_map, mem_canonical] at hr ⊢
  constructor
  · rintro ((ht | ⟨c, hc | hc, rfl⟩) | ht)
    · left; left
      apply ht
    · left; right
      use c
    · apply hr c hc
    · right
      apply ht
  · rintro ((ht | ⟨c, hc, rfl⟩) | ht)
    · left; left
      apply ht
    · left; right
      use c, Or.inl hc
    · right
      apply ht

/-- A group that takes another map in serves this map, and all that it served before. -/
theorem serves_add {g : Group α} {m : α} (h : g.accepts (Member.relation m) = true) :
  Serves (g.add m).relation (Member.relation m)
    ∧ ∀ r, Serves g.relation r → Serves (g.add m).relation r
  := by
  obtain ⟨-, hu, halike⟩ := accepts_iff.1 h
  have hempty : (Member.relation m).isEmpty = g.relation.isEmpty := by
    rw [Relation.isEmpty, Relation.isEmpty, halike.condition]
  have hadd : (g.add m).relation.isEmpty = g.relation.isEmpty := Relation.isEmpty_project _ _
  cases he : g.relation.isEmpty with
  | true =>
    rw [he] at hempty hadd
    constructor
    · exact Or.inl ⟨hadd, hempty⟩
    · rintro r (⟨-, hr⟩ | ⟨hg, -⟩)
      · exact Or.inl ⟨hadd, hr⟩
      · rw [hg] at he
        cases he
  | false =>
    rw [he] at hempty hadd
    have htables := tables_project_append he halike.tables
    constructor
    · refine Or.inr ⟨hadd, hempty, halike.covers_project he hu htables ?_⟩
      intro c hc
      apply List.mem_append_right _ hc
    · rintro r (⟨hg, -⟩ | ⟨-, hr, hcovers⟩)
      · rw [hg] at he
        cases he
      · refine Or.inr ⟨hadd, hr, hcovers.toAlike.covers_project he hu htables ?_⟩
        intro c hc
        apply List.mem_append_left _ (hcovers.projections c hc)

/-- The query of a group serves all its members, and reads no columns but theirs. -/
structure Lawful (g : Group α) : Prop where
  serves : ∀ m ∈ g.members, Serves g.relation (Member.relation m)
  projections : ∀ c ∈ g.relation.projections, ∃ m ∈ g.members, c ∈ (Member.relation m).projections
  nonempty : g.members ≠ []

theorem lawful_single (m : α) :
  (single m).Lawful
  := by
  constructor
  · simp only [single, List.mem_singleton, forall_eq]
    apply Serves.refl
  · intro c hc
    use m, by simp [single]
    apply hc
  · simp [single]

theorem Lawful.add {g : Group α} (hg : g.Lawful) {m : α}
    (h : g.accepts (Member.relation m) = true) :
  (g.add m).Lawful
  := by
  obtain ⟨hm, hother⟩ := serves_add h
  constructor
  · simp only [Group.add, List.forall_mem_append, List.forall_mem_singleton]
    constructor
    · intro m' hm'
      apply hother _ (hg.serves m' hm')
    · apply hm
  · intro c hc
    have hc : c ∈ g.relation.projections ∨ c ∈ (Member.relation m).projections := by
      simp only [Group.add, Relation.project] at hc
      split at hc
      · cases hc
      · rw [mem_canonical, List.mem_append] at hc
        apply hc
    obtain hc | hc := hc
    · obtain ⟨m', hm', hc⟩ := hg.projections c hc
      use m', List.mem_append_left _ hm'
    · use m, List.mem_append_right _ (List.mem_singleton_self m)
  · simp [Group.add]

theorem lawful_of_mem_place {m : α} {gs : List (Group α)} (h : ∀ g ∈ gs, g.Lawful) :
  ∀ g ∈ place m gs, g.Lawful
  := by
  induction gs with
  | nil =>
    simp only [place, List.mem_singleton, forall_eq]
    apply lawful_single
  | cons g gs ih =>
    rw [List.forall_mem_cons] at h
    rw [place]
    split
    · rename_i haccepts
      rw [List.forall_mem_cons]
      use h.1.add haccepts, h.2
    · rw [List.forall_mem_cons]
      use h.1, ih h.2

theorem lawful_of_mem_ofList (ms : List α) :
  ∀ g ∈ ofList ms, g.Lawful
  := by
  have h : ∀ gs : List (Group α), (∀ g ∈ gs, g.Lawful)
      → ∀ g ∈ ms.foldl (fun gs m => place m gs) gs, g.Lawful := by
    induction ms with
    | nil => simp
    | cons m ms ih =>
      intro gs hgs
      apply ih _ (lawful_of_mem_place hgs)
  apply h
  simp

theorem perm_members_place (m : α) (gs : List (Group α)) :
  ((place m gs).flatMap members).Perm (m :: gs.flatMap members)
  := by
  induction gs with
  | nil => apply List.Perm.refl
  | cons g gs ih =>
    rw [place]
    split
    · rw [List.flatMap_cons, List.flatMap_cons, add, List.append_assoc]
      apply List.perm_middle
    · rw [List.flatMap_cons, List.flatMap_cons]
      apply (ih.append_left _).trans
      apply List.perm_middle

/-- The members of the groups are the maps. -/
theorem perm_members_ofList (ms : List α) :
  ((ofList ms).flatMap members).Perm ms
  := by
  have h : ∀ gs : List (Group α), ((ms.foldl (fun gs m => place m gs) gs).flatMap members).Perm
      (gs.flatMap members ++ ms) := by
    induction ms with
    | nil => simp
    | cons m ms ih =>
      intro gs
      rw [List.foldl_cons]
      apply (ih _).trans
      apply ((perm_members_place m gs).append_right ms).trans
      apply List.perm_middle.symm
  apply h

/-! ### Items of groups -/

/-- What a map gives depends on the columns that it reads. -/
def ReadsProjections (m : α) : Prop :=
  (Member.relation m).isEmpty = false
    → ∀ row row' : Row, (∀ c ∈ (Member.relation m).projections, row.get? c = row'.get? c)
      → Member.make? m row = Member.make? m row'

theorem perm_flatMap_items (g : Group α) (rows : List Row) :
  (rows.flatMap g.items).Perm (g.members.flatMap fun m => rows.filterMap (Member.make? m))
  := by
  unfold items
  induction g.members with
  | nil => simp
  | cons m ms ih =>
    simp only [List.flatMap_cons, List.filterMap_eq_flatMap_toList] at ih ⊢
    apply (List.flatMap_append_perm rows _ _).symm.trans
    apply ih.append_left

/-- The rows of a group give each of its members the items of its own rows, in their order. -/
theorem Lawful.itemsOf_eq {g : Group α} (hg : g.Lawful) {m : α} (hm : m ∈ g.members)
    (hreads : ReadsProjections m) {rows : List Row} (hrows : readRows db g.relation = .ok rows) :
  itemsOf db m = .ok (rows.filterMap (Member.make? m))
  := by
  obtain ⟨own, hown, hsame⟩ := (hg.serves m hm).readRows_eq hrows
  rw [Engine.itemsOf_eq, hown, map_eq_ok]
  use own, rfl
  cases he : (Member.relation m).isEmpty with
  | true =>
    rw [readRows, if_pos he] at hown
    cases hown
    cases hsame
    rfl
  | false =>
    clear hown hrows
    induction hsame with
    | nil => rfl
    | cons hrow _ ih => rw [List.filterMap_cons, List.filterMap_cons, ih, hreads he _ _ hrow]

/-- If the query of a group succeeds, so do those of its members, and together they give the items
of the group. -/
theorem Lawful.perm_ownItems {g : Group α} (hg : g.Lawful)
    (hreads : ∀ m ∈ g.members, ReadsProjections m) {is : List ι} (h : g.answer db = .ok is) :
  (∀ m ∈ g.members, itemsOf db m = .ok (ownItems db m))
    ∧ is.Perm (g.members.flatMap (ownItems db))
  := by
  rw [answer_eq, map_eq_ok] at h
  obtain ⟨rows, hrows, rfl⟩ := h
  have hown : ∀ m ∈ g.members, itemsOf db m = .ok (rows.filterMap (Member.make? m)) := by
    intro m hm
    apply hg.itemsOf_eq hm (hreads m hm) hrows
  constructor
  · intro m hm
    rw [ownItems_eq (hown m hm), hown m hm]
  · apply (perm_flatMap_items g rows).trans
    apply List.Perm.of_eq
    apply List.flatMap_congr
    intro m hm
    rw [ownItems_eq (hown m hm)]

theorem mem_of_mem_ofList {ms : List α} {g : Group α} (hg : g ∈ ofList ms) {m : α}
    (hm : m ∈ g.members) :
  m ∈ ms
  := by
  rw [← (perm_members_ofList ms).mem_iff, List.mem_flatMap]
  use g

/-- If the queries of all the groups succeed, so do those of the maps on their own, and together
they give the same items. -/
theorem perm_ownItems_ofList {ms : List α} (hreads : ∀ m ∈ ms, ReadsProjections m)
    {answers : Group α → List ι} (h : ∀ g ∈ ofList ms, g.answer db = .ok (answers g)) :
  (∀ m ∈ ms, itemsOf db m = .ok (ownItems db m))
    ∧ ((ofList ms).flatMap answers).Perm (ms.flatMap (ownItems db))
  := by
  have hgroup : ∀ g ∈ ofList ms, (∀ m ∈ g.members, itemsOf db m = .ok (ownItems db m))
      ∧ (answers g).Perm (g.members.flatMap (ownItems db)) := by
    intro g hg
    apply (lawful_of_mem_ofList ms g hg).perm_ownItems _ (h g hg)
    intro m hm
    apply hreads m (mem_of_mem_ofList hg hm)
  constructor
  · intro m hm
    rw [← (perm_members_ofList ms).mem_iff, List.mem_flatMap] at hm
    obtain ⟨g, hg, hm⟩ := hm
    apply (hgroup g hg).1 m hm
  · apply (List.Perm.flatMap_left (ofList ms) fun g hg => (hgroup g hg).2).trans
    rw [← List.flatMap_assoc]
    apply (perm_members_ofList ms).flatMap_right

end Group

end RelGraph.Engine
