import RelGraph.Proofs.Sql.Picks

/-!
# Joined relations

Relations without common tables are joined side by side: a pick is in the join exactly when it is
in each of them.
-/

namespace RelGraph.Sql.Relation

open Expr

variable {rs : List Relation} {joined : Relation} {t : Table} {c : Column}

/-- No table is read by both relations. -/
def Apart (r s : Relation) : Prop := ∀ t ∈ r.tables, t ∉ s.tables

/-- Every table is read under an alias. -/
def Aliased (r : Relation) : Prop := ∀ t ∈ r.tables, ∃ u, r.aliases.tables.get? t = some u

/-- The relation without its order. -/
def unordered (r : Relation) : Relation := { r with order := none }

/-- The order is by a column of a table that the relation would read without it. -/
def Anchored (r : Relation) : Prop := ∀ o, r.order = some o → o.1.table ∈ r.unordered.tables

/-- What is known of the join of some relations. -/
structure Joins (rs : List Relation) (joined : Relation) : Prop where
  sound : joined.Sound
  database : ∀ name, joined.database = some name ↔ ∃ r ∈ rs, r.database = some name
  unique : joined.unique = true ↔ ∀ r ∈ rs, r.unique = true
  tables : ∀ t, t ∈ joined.tables ↔ ∃ r ∈ rs, t ∈ r.tables
  tableOf : ∀ r ∈ rs, ∀ t ∈ r.tables, joined.aliases.tableOf t = r.aliases.tableOf t
  columns : ∀ c ∈ joined.columnList, ∃ r ∈ rs, c ∈ r.columnList
  projections : ∀ c, c ∈ joined.projections ↔ ∃ r ∈ rs, c ∈ r.projections
  holds : ∀ cells, ((∀ j ∈ joined.joins, HoldsAt cells j.toExpr) ∧ HoldsAt cells joined.condition)
    ↔ ∀ r ∈ rs, (∀ j ∈ r.joins, HoldsAt cells j.toExpr) ∧ HoldsAt cells r.condition

theorem joins_trivial :
  Joins [] trivial
  := by
  constructor
  · constructor
    · rfl
    · rfl
    · rfl
    · intro j hj
      cases hj
  · simp [trivial]
  · simp [trivial]
  · intro t
    rw [show trivial.tables = [] from rfl]
    simp
  · simp
  · rw [show trivial.columnList = [] from rfl]
    simp
  · simp [trivial]
  · intro cells
    simp [trivial, holdsAt_always]

section

variable {r s : Relation}

/-- A name of the one relation is no alias of the other one. -/
theorem Apart.get?_eq_none (h : Apart r s) (hs : s.Sound) (ht : t ∈ r.tables) {u : Table} :
  s.aliases.tables.get? t ≠ some u
  := by
  intro hu
  apply h t ht
  apply hs.mem_tables_iff.2 (Or.inl ⟨u, hu⟩)

theorem Apart.symm (h : Apart r s) :
  Apart s r
  := by
  intro t hs hr
  apply h t hr hs

/-- In the join, the names stand for the same tables as before. -/
theorem Apart.tableOf_merge (h : Apart r s) (hr : r.Sound) (hs : s.Sound) {aliases : Aliases}
    (hmerge : r.aliases.merge s.aliases = .ok aliases) :
  (t ∈ r.tables → aliases.tableOf t = r.aliases.tableOf t)
    ∧ (t ∈ s.tables → aliases.tableOf t = s.aliases.tableOf t)
  := by
  rw [Aliases.tableOf, Aliases.tableOf, Aliases.tableOf]
  constructor
  · intro ht
    congr 1
    apply Option.ext
    intro u
    rw [Aliases.get?_of_merge hmerge, or_iff_left (h.get?_eq_none hs ht)]
  · intro ht
    congr 1
    apply Option.ext
    intro u
    rw [Aliases.get?_of_merge hmerge, or_iff_right (h.symm.get?_eq_none hr ht)]

theorem joinDatabase_eq_some_iff {a b database : Option String}
    (h : joinDatabase a b = .ok database) {name : String} :
  database = some name ↔ a = some name ∨ b = some name
  := by
  unfold joinDatabase at h
  split at h
  · split at h
    · rename_i heq
      cases h
      simp [heq]
    · cases h
  · cases h
    simp
  · cases h
    simp

theorem joinTwo_eq_ok (h : r.joinTwo s = .ok joined) :
  ∃ database aliases, joinDatabase r.database s.database = .ok database
    ∧ r.aliases.merge s.aliases = .ok aliases ∧ joined = {
    database
    aliases
    condition := andAll [r.condition, s.condition]
    joins := canonical (r.joins ++ s.joins)
    projections := canonical (r.projections ++ s.projections)
    unique := r.unique && s.unique
    order := r.order.or s.order
    limit := minLimit r.limit s.limit
    limitInverse := minLimit r.limitInverse s.limitInverse }
  := by
  unfold joinTwo at h
  split at h
  · cases h
  · rename_i database hdatabase
    split at h
    · cases h
    · rename_i aliases haliases
      cases h
      use database, aliases, hdatabase, haliases

/-- The order of the second relation does not count if the first one has one. -/
theorem joinTwo_unordered (ho : r.order ≠ none) :
  r.joinTwo s.unordered = r.joinTwo s
  := by
  obtain ⟨o, ho⟩ := Option.ne_none_iff_exists'.1 ho
  simp [joinTwo, unordered, ho]

theorem Sound.unordered (hr : r.Sound) :
  r.unordered.Sound
  := ⟨hr.limit, hr.limitInverse, hr.isCondition, hr.joins⟩

/-- A relation reads the same tables without its order if that order mentions no other one. -/
theorem Anchored.tables_eq (h : r.Anchored) :
  r.unordered.tables = r.tables
  := by
  apply eq_of_increasing (increasing_canonical _) (increasing_canonical _)
  intro t
  have hsplit : t ∈ r.tables ↔ t ∈ r.unordered.tables ∨ ∃ o, r.order = some o ∧ o.1.table = t := by
    simp [tables, unordered, or_assoc]
  constructor
  · intro ht
    apply hsplit.2 (.inl ht)
  · intro ht
    obtain ht | ⟨o, ho, rfl⟩ := hsplit.1 ht
    · apply ht
    · apply h o ho

theorem Aliased.anchored (h : r.Aliased) (hr : r.Sound) :
  r.Anchored
  := by
  intro o ho
  have ht : o.1.table ∈ r.tables := by
    apply hr.mem_tables
    rw [columnList, ho]
    apply List.mem_append_right _ (List.mem_singleton.2 rfl)
  obtain ⟨u, hu⟩ := h _ ht
  apply hr.unordered.mem_tables_iff.2 (.inl ⟨u, hu⟩)

theorem sound_joinTwo (hr : r.Sound) (hs : s.Sound) (h : r.joinTwo s = .ok joined) :
  joined.Sound
  := by
  obtain ⟨database, aliases, -, -, rfl⟩ := joinTwo_eq_ok h
  constructor
  · simp [hr.limit, hs.limit, minLimit]
  · simp [hr.limitInverse, hs.limitInverse, minLimit]
  · apply isCondition_andAll
    simp [hr.isCondition, hs.isCondition]
  · intro j hj
    simp only [mem_canonical, List.mem_append] at hj
    apply hj.elim (hr.joins j) (hs.joins j)

theorem mem_columnList_iff {r : Relation} :
  c ∈ r.columnList ↔ (∃ j ∈ r.joins, c ∈ j.columns) ∨ c ∈ r.condition.columnList
    ∨ c ∈ r.projections ∨ ∃ o, r.order = some o ∧ o.1 = c
  := by
  simp only [Relation.columnList, List.mem_append, List.mem_flatMap, List.mem_map,
    Option.mem_toList, or_assoc]

/-- The columns that are mentioned in a join are mentioned in one of the relations. -/
theorem mem_columnList_of_joinTwo (h : r.joinTwo s = .ok joined) (hc : c ∈ joined.columnList) :
  c ∈ r.columnList ∨ c ∈ s.columnList
  := by
  obtain ⟨database, aliases, -, -, rfl⟩ := joinTwo_eq_ok h
  have hcondition : ReadsOnly (r.condition.columnList ++ s.condition.columnList)
      (andAll [r.condition, s.condition]) := by
    apply readsOnly_andAll
    simp +contextual [ReadsOnly]
  simp only [mem_columnList_iff, mem_canonical, List.mem_append, Option.or_eq_some_iff] at hc ⊢
  obtain ⟨j, hj | hj, hc⟩ | hc | (hc | hc) | ⟨o, ho | ⟨-, ho⟩, rfl⟩ := hc
  · left; left
    use j
  · right; left
    use j
  · obtain hc | hc := List.mem_append.1 (hcondition c hc)
    · left; right; left
      apply hc
    · right; right; left
      apply hc
  · left; right; right; left
    apply hc
  · right; right; right; left
    apply hc
  · left; right; right; right
    use o
  · right; right; right; right
    use o

section

variable (h : r.joinTwo s = .ok joined) (he : joined.isEmpty = false)

include h he

theorem mem_columnList_joinTwo_left (hc : c ∈ r.columnList) :
  c ∈ joined.columnList
  := by
  obtain ⟨database, aliases, -, -, rfl⟩ := joinTwo_eq_ok h
  have hnever := never_notMem_of_andAll_ne (isEmpty_eq_false_iff.1 he)
  simp only [mem_columnList_iff, mem_canonical, List.mem_append, mem_columnList_andAll hnever]
    at hc ⊢
  obtain ⟨j, hj, hc⟩ | hc | hc | ⟨o, ho, rfl⟩ := hc
  · left
    use j, Or.inl hj
  · right; left
    use r.condition
    simp [hc]
  · right; right; left; left
    apply hc
  · right; right; right
    use o
    simp [ho]

theorem mem_columnList_joinTwo_right (ho : r.order = none ∨ s.order = none)
    (hc : c ∈ s.columnList) :
  c ∈ joined.columnList
  := by
  obtain ⟨database, aliases, -, -, rfl⟩ := joinTwo_eq_ok h
  have hnever := never_notMem_of_andAll_ne (isEmpty_eq_false_iff.1 he)
  simp only [mem_columnList_iff, mem_canonical, List.mem_append, mem_columnList_andAll hnever]
    at hc ⊢
  obtain ⟨j, hj, hc⟩ | hc | hc | ⟨o, ho', rfl⟩ := hc
  · left
    use j, Or.inr hj
  · right; left
    use s.condition
    simp [hc]
  · right; right; left; right
    apply hc
  · right; right; right
    use o
    obtain ho | ho := ho
    · simp [ho, ho']
    · rw [ho] at ho'
      cases ho'

theorem mem_tables_joinTwo_of_none (hr : r.Sound) (hs : s.Sound)
    (ho : r.order = none ∨ s.order = none) :
  t ∈ joined.tables ↔ t ∈ r.tables ∨ t ∈ s.tables
  := by
  have hsound := sound_joinTwo hr hs h
  obtain ⟨database, aliases, -, hmerge, hjoined⟩ := joinTwo_eq_ok h
  have halias : ∀ {t u : Table}, joined.aliases.tables.get? t = some u
      ↔ r.aliases.tables.get? t = some u ∨ s.aliases.tables.get? t = some u := by
    intro t u
    rw [hjoined, Aliases.get?_of_merge hmerge]
  rw [hsound.mem_tables_iff]
  constructor
  · rintro (⟨u, hu⟩ | ⟨c, hc, rfl⟩)
    · obtain hu | hu := halias.1 hu
      · left
        apply hr.mem_tables_iff.2 (Or.inl ⟨u, hu⟩)
      · right
        apply hs.mem_tables_iff.2 (Or.inl ⟨u, hu⟩)
    · obtain hc | hc := mem_columnList_of_joinTwo h hc
      · left
        apply hr.mem_tables hc
      · right
        apply hs.mem_tables hc
  · rintro (ht | ht)
    · obtain ⟨u, hu⟩ | ⟨c, hc, rfl⟩ := hr.mem_tables_iff.1 ht
      · left
        use u, halias.2 (Or.inl hu)
      · right
        use c, mem_columnList_joinTwo_left h he hc
    · obtain ⟨u, hu⟩ | ⟨c, hc, rfl⟩ := hs.mem_tables_iff.1 ht
      · left
        use u, halias.2 (Or.inr hu)
      · right
        use c, mem_columnList_joinTwo_right h he ho hc

/-- The join reads the tables of both relations, unless the order of the second one is lost and
was all that mentioned a table. -/
theorem mem_tables_joinTwo (hr : r.Sound) (hs : s.Sound) (ho : r.order = none ∨ s.Anchored) :
  t ∈ joined.tables ↔ t ∈ r.tables ∨ t ∈ s.tables
  := by
  by_cases hnone : r.order = none
  · apply mem_tables_joinTwo_of_none h he hr hs (.inl hnone)
  · rw [← joinTwo_unordered hnone] at h
    rw [mem_tables_joinTwo_of_none h he hr hs.unordered (.inr rfl),
      (ho.resolve_left hnone).tables_eq]

end

theorem joinTwo_holds_iff (h : r.joinTwo s = .ok joined) (cells : Column → Cell) :
  ((∀ j ∈ joined.joins, HoldsAt cells j.toExpr) ∧ HoldsAt cells joined.condition)
    ↔ ((∀ j ∈ r.joins, HoldsAt cells j.toExpr) ∧ HoldsAt cells r.condition)
      ∧ (∀ j ∈ s.joins, HoldsAt cells j.toExpr) ∧ HoldsAt cells s.condition
  := by
  obtain ⟨database, aliases, -, -, rfl⟩ := joinTwo_eq_ok h
  simp only [mem_canonical, List.mem_append, or_imp, forall_and, holdsAt_andAll, List.mem_cons,
    List.not_mem_nil, or_false, forall_eq]
  constructor
  · rintro ⟨⟨hj, hj'⟩, hc, hc'⟩
    use ⟨hj, hc⟩, hj', hc'
  · rintro ⟨⟨hj, hc⟩, hj', hc'⟩
    use ⟨hj, hj'⟩, hc, hc'

end

/-! ### Joining one relation after the other -/

theorem exists_mem_append_singleton {P : Relation → Prop} {r : Relation} :
  (∃ s ∈ rs ++ [r], P s) ↔ (∃ s ∈ rs, P s) ∨ P r
  := by
  simp only [List.mem_append, List.mem_singleton, or_and_right, exists_or, exists_eq_left]

theorem Joins.joinTwo {joined joined' r : Relation} (hrs : Joins rs joined) (hr : r.Sound)
    (hapart : ∀ s ∈ rs, Apart s r) (ho : joined.order = none ∨ r.Anchored)
    (h : joined.joinTwo r = .ok joined') (he : joined'.isEmpty = false) :
  Joins (rs ++ [r]) joined'
  := by
  have hap : Apart joined r := by
    intro t ht
    obtain ⟨s, hs, ht⟩ := (hrs.tables t).1 ht
    apply hapart s hs t ht
  obtain ⟨database, aliases, hdatabase, hmerge, heq⟩ := joinTwo_eq_ok h
  constructor
  · apply sound_joinTwo hrs.sound hr h
  · intro name
    rw [exists_mem_append_singleton, ← hrs.database, heq, joinDatabase_eq_some_iff hdatabase]
  · rw [heq, List.forall_mem_append, ← hrs.unique, List.forall_mem_singleton, Bool.and_eq_true]
  · intro t
    rw [mem_tables_joinTwo h he hrs.sound hr ho, hrs.tables, exists_mem_append_singleton]
  · intro s hs t ht
    rw [heq]
    have htable := hap.tableOf_merge hrs.sound hr hmerge (t := t)
    obtain hs | rfl := List.mem_append.1 hs |>.imp_right List.mem_singleton.1
    · rw [htable.1 ((hrs.tables t).2 ⟨s, hs, ht⟩), hrs.tableOf s hs t ht]
    · apply htable.2 ht
  · intro c hc
    rw [exists_mem_append_singleton]
    apply (mem_columnList_of_joinTwo h hc).imp_left (hrs.columns c)
  · intro c
    rw [exists_mem_append_singleton, ← hrs.projections, heq, mem_canonical, List.mem_append]
  · intro cells
    rw [joinTwo_holds_iff h, hrs.holds, List.forall_mem_append, List.forall_mem_singleton]

theorem isEmpty_of_joinFrom {joined j : Relation} (he : joined.isEmpty = true)
    (h : joined.joinFrom rs = .ok j) :
  j.isEmpty = true
  := by
  induction rs generalizing joined with
  | nil =>
    rw [joinFrom, if_pos he] at h
    cases h
    rfl
  | cons r rs ih =>
    rw [joinFrom] at h
    split at h
    · cases h
      rfl
    · split at h
      · rename_i joined' hjoined
        apply ih _ h
        obtain ⟨database, aliases, -, -, rfl⟩ := joinTwo_eq_ok hjoined
        rw [isEmpty_iff] at he ⊢
        simp [andAll, he]
      · cases h

/-- A join without rows has a condition that contradicts those of the relations. -/
theorem joinFrom_cases {rs₀ rs : List Relation} {joined j : Relation} (hjoins : Joins rs₀ joined)
    (he : joined.isEmpty = false) (hsound : ∀ r ∈ rs, r.Sound)
    (hapart : (rs₀ ++ rs).Pairwise Apart) (hfirst : joined.order = none ∨ ∀ r ∈ rs, r.Anchored)
    (ho : rs.Pairwise fun r s => r.order = none ∨ s.Anchored) (h : joined.joinFrom rs = .ok j) :
  (j.isEmpty = false ∧ Joins (rs₀ ++ rs) j)
    ∨ (j.isEmpty = true ∧ ∀ cells, ¬ ∀ r ∈ rs₀ ++ rs,
        (∀ j ∈ r.joins, HoldsAt cells j.toExpr) ∧ HoldsAt cells r.condition)
  := by
  induction rs generalizing rs₀ joined with
  | nil =>
    rw [joinFrom, he, if_neg (by simp)] at h
    cases h
    left
    rw [List.append_nil]
    use he
  | cons r rs ih =>
    rw [List.forall_mem_cons] at hsound
    rw [joinFrom] at h
    split at h
    · rename_i hempty
      cases h
      right
      use rfl
      intro cells hall
      apply @not_holdsAt_never cells
      rw [← isEmpty_iff.1 hempty]
      apply (hall r (by simp)).2
    · split at h
      · rename_i joined' hjoined
        rw [List.pairwise_cons] at ho
        rw [List.forall_mem_cons] at hfirst
        have horder : joined'.order = joined.order.or r.order := by
          obtain ⟨database, aliases, -, -, rfl⟩ := joinTwo_eq_ok hjoined
          rfl
        by_cases he' : joined'.isEmpty = true
        · right
          use isEmpty_of_joinFrom he' h
          intro cells hall
          apply @not_holdsAt_never cells
          rw [← isEmpty_iff.1 he']
          have hr := hall r (by simp)
          rw [List.forall_mem_append, ← hjoins.holds] at hall
          apply ((joinTwo_holds_iff hjoined cells).2 ⟨hall.1, hr⟩).2
        · rw [Bool.not_eq_true] at he'
          have hstep : Joins (rs₀ ++ [r]) joined' := by
            apply hjoins.joinTwo hsound.1 _ (hfirst.imp_right (·.1)) hjoined he'
            intro s hs
            apply (List.pairwise_append.1 hapart).2.2 s hs r (by simp)
          rw [List.append_cons] at hapart ⊢
          apply ih hstep he' hsound.2 hapart _ ho.2 h
          -- an order that comes later is lost as soon as there is one
          obtain hnone | hanchored := hfirst
          · rw [horder, hnone, Option.none_or]
            cases hr : r.order with
            | none => exact .inl rfl
            | some o =>
              right
              intro s hs
              apply (ho.1 s hs).resolve_left
              simp [hr]
          · exact .inr hanchored.2
      · cases h

/-- Relations without common tables can be joined if no order is lost that is all that mentions a
table. -/
theorem joinAll_cases {j : Relation} (hsound : ∀ r ∈ rs, r.Sound) (hapart : rs.Pairwise Apart)
    (ho : rs.Pairwise fun r s => r.order = none ∨ s.Anchored) (h : joinAll rs = .ok j) :
  (j.isEmpty = false ∧ Joins rs j)
    ∨ (j.isEmpty = true ∧ ∀ cells, ¬ ∀ r ∈ rs,
        (∀ j ∈ r.joins, HoldsAt cells j.toExpr) ∧ HoldsAt cells r.condition)
  := joinFrom_cases joins_trivial rfl hsound hapart (.inl rfl) ho h

/-- A pick is in the join exactly when it is in each of the relations. -/
theorem Joins.holds_iff (h : Joins rs joined) {db : Database} {pick : Pick} :
  joined.Holds db pick ↔ ∀ r ∈ rs, r.Holds db pick
  := by
  constructor
  · rintro ⟨hpicks, hjoins, hcondition⟩ r hr
    have hcells := (h.holds pick.cell).1 ⟨hjoins, hcondition⟩ r hr
    constructor
    · intro t ht
      rw [← h.tableOf r hr t ht]
      apply hpicks t ((h.tables t).2 ⟨r, hr, ht⟩)
    · apply hcells.1
    · apply hcells.2
  · intro hall
    have hcells := (h.holds pick.cell).2 fun r hr => ⟨(hall r hr).joins, (hall r hr).condition⟩
    constructor
    · intro t ht
      obtain ⟨r, hr, ht⟩ := (h.tables t).1 ht
      rw [h.tableOf r hr t ht]
      apply (hall r hr).picks t ht
    · apply hcells.1
    · apply hcells.2

theorem Joins.fits (h : Joins rs joined) (hsound : ∀ r ∈ rs, r.Sound) {db : Database}
    (hfits : ∀ r ∈ rs, r.Fits db) :
  joined.Fits db
  := by
  constructor
  · intro t ht
    obtain ⟨r, hr, ht⟩ := (h.tables t).1 ht
    rw [h.tableOf r hr t ht]
    apply (hfits r hr).tables t ht
  · intro c hc
    obtain ⟨r, hr, hc⟩ := h.columns c hc
    rw [h.tableOf r hr c.table ((hsound r hr).mem_tables hc)]
    apply (hfits r hr).columns c hc

end RelGraph.Sql.Relation
