import RelGraph.Proofs.Engine.Plan

/-!
# Narrowed plans

A plan that is narrowed to a binding has the same solutions that are compatible with the binding as
the plan itself, in some order.  So a left join, whose right plan is narrowed to each left solution,
has the solutions of the left join with the right plan as it is.
-/

namespace RelGraph.Engine

open Rdf Sql Sparql Mapping

/-! ### Lists of which some members matter -/

variable {α β : Type}

theorem filter_flatMap_of_imp {c : β → Bool} {d : α → Bool} {f : α → List β}
    (h : ∀ a, ∀ x ∈ f a, c x = true → d a = true) (as : List α) :
  (as.flatMap f).filter c = ((as.filter d).flatMap f).filter c
  := by
  induction as with
  | nil => rfl
  | cons a as ih =>
    rw [List.flatMap_cons, List.filter_append, ih, List.filter_cons]
    split
    · rw [List.flatMap_cons, List.filter_append]
    · rename_i ha
      rw [show (f a).filter c = [] from List.filter_eq_nil_iff.2 fun x hx hc => ha (h a x hx hc),
        List.nil_append]

/-- If all that matters comes from members that matter, it comes in another order when these come
in another order. -/
theorem perm_filter_flatMap {c : β → Bool} {d : α → Bool} {f : α → List β}
    (h : ∀ a, ∀ x ∈ f a, c x = true → d a = true) {as as' : List α}
    (hperm : (as.filter d).Perm (as'.filter d)) :
  ((as.flatMap f).filter c).Perm ((as'.flatMap f).filter c)
  := by
  rw [filter_flatMap_of_imp h as, filter_flatMap_of_imp h as']
  apply List.Perm.filter
  apply hperm.flatMap_right

theorem perm_filter_map {c : β → Bool} {d : α → Bool} {f : α → β}
    (h : ∀ a, c (f a) = true → d a = true) {as as' : List α}
    (hperm : (as.filter d).Perm (as'.filter d)) :
  ((as.map f).filter c).Perm ((as'.map f).filter c)
  := by
  rw [List.map_eq_flatMap, List.map_eq_flatMap]
  apply perm_filter_flatMap _ hperm
  intro a x hx
  rw [List.mem_singleton.1 hx]
  apply h

theorem perm_filter_filter {c d : α → Bool} {as as' : List α}
    (hperm : (as.filter c).Perm (as'.filter c)) :
  ((as.filter d).filter c).Perm ((as'.filter d).filter c)
  := by
  have hcomm : ∀ l : List α, (l.filter d).filter c = (l.filter c).filter d :=
    fun l => List.filter_comm c d l
  rw [hcomm, hcomm]
  apply hperm.filter

/-! ### Compatible solutions of operators -/

variable {b : Binding}

theorem compatible_of_merge? {a y m : Binding} (h : a.merge? y = some m)
    (hm : m.compatible b = true) :
  a.compatible b = true ∧ y.compatible b = true
  := by
  obtain ⟨hay, hget⟩ := Binding.merge?_eq_some_iff.1 h
  constructor
  · apply Binding.compatible_of_le _ hm
    intro v t ht
    rw [hget, ht]
    rfl
  · apply Binding.compatible_of_le _ hm
    intro v t ht
    rw [hget]
    cases ha : a.get? v with
    | none => rw [Option.none_or, ht]
    | some s => rw [Option.some_or, Binding.compatible_iff.1 hay v s t ha ht]

theorem perm_filter_joined {as as' bs bs' : List Binding}
    (has : (as.filter (·.compatible b)).Perm (as'.filter (·.compatible b)))
    (hbs : (bs.filter (·.compatible b)).Perm (bs'.filter (·.compatible b))) :
  ((as.flatMap (joined bs)).filter (·.compatible b)).Perm
    ((as'.flatMap (joined bs')).filter (·.compatible b))
  := by
  have hleft : ((as.flatMap (joined bs)).filter (·.compatible b)).Perm
      ((as'.flatMap (joined bs)).filter (·.compatible b)) := by
    apply perm_filter_flatMap _ has
    intro a m hm hc
    obtain ⟨y, -, hy⟩ := mem_joined.1 hm
    apply (compatible_of_merge? hy hc).1
  apply hleft.trans
  rw [List.filter_flatMap, List.filter_flatMap]
  apply List.Perm.flatMap_left
  intro a _
  rw [joined, joined, List.filterMap_eq_flatMap_toList, List.filterMap_eq_flatMap_toList]
  apply perm_filter_flatMap _ hbs
  intro y m hm hc
  apply (compatible_of_merge? (Option.mem_toList.1 hm) hc).2

theorem compatible_of_optionally {ys : List Binding} {e : Expression} {a x : Binding}
    (hx : x ∈ optionally ys e a) (hc : x.compatible b = true) :
  a.compatible b = true
  := by
  obtain rfl | ⟨y, -, hy⟩ := mem_optionally hx
  · apply hc
  · apply (compatible_of_merge? hy hc).1

theorem compatible_erase_of_extended {v : Variable} {e : Expression} {a : Binding}
    (h : (extended v e a).compatible b = true) :
  a.compatible (b.erase v) = true
  := by
  rw [Binding.compatible_iff] at h ⊢
  intro w s t hs ht
  by_cases hw : w = v
  · subst hw
    rw [Binding.get?_erase_self] at ht
    cases ht
  · rw [Binding.get?_erase_of_ne _ hw] at ht
    apply h w s t _ ht
    rw [get?_extended_of_ne e a hw, hs]

theorem compatible_restrict_iff {vs : List Variable} {a : Binding} :
  (a.restrict vs).compatible b = true ↔ a.compatible (b.restrict vs) = true
  := by
  rw [Binding.compatible_iff, Binding.compatible_iff]
  simp only [Binding.get?_restrict, Option.ite_none_right_eq_some]
  constructor
  · rintro h v s t hs ⟨hv, ht⟩
    apply h v s t ⟨hv, hs⟩ ht
  · rintro h v s t ⟨hv, hs⟩ ht
    apply h v s t hs ⟨hv, ht⟩

theorem joined_filter_compatible (a : Binding) (ys : List Binding) :
  joined (ys.filter (·.compatible a)) a = joined ys a
  := by
  rw [joined, joined, List.filterMap_filter]
  apply List.filterMap_congr
  intro y _
  split
  · rfl
  · rename_i hy
    rw [Binding.compatible_comm, ← Binding.merge?_isSome_iff, Option.not_isSome_iff_eq_none] at hy
    rw [hy]

/-- Only the right solutions that are compatible with a left solution matter for it. -/
theorem perm_optionally {a : Binding} {e : Expression} {ys zs : List Binding}
    (h : (zs.filter (·.compatible a)).Perm (ys.filter (·.compatible a))) :
  (optionally zs e a).Perm (optionally ys e a)
  := by
  have hjoined : ((joined zs a).filter e.holds).Perm ((joined ys a).filter e.holds) := by
    rw [← joined_filter_compatible a zs, ← joined_filter_compatible a ys]
    apply List.Perm.filter
    apply h.filterMap
  rw [optionally, optionally]
  split
  · rename_i hzs
    rw [hzs] at hjoined
    rw [hjoined.nil_eq.symm]
  · rename_i hzs
    split
    · rename_i hys
      rw [hys] at hjoined
      apply absurd hjoined.eq_nil hzs
    · apply hjoined

namespace Plan

/-! ### Maps of plans -/

mutual

/-- The solution maps of a plan. -/
def mapList : Plan → List SolutionMap
  | .maps ms => ms
  | .join l r => mapList l ++ mapList r
  | .leftJoin l r _ => mapList l ++ mapList r
  | .filter p _ => mapList p
  | .union ps => mapLists ps
  | .minus l r => mapList l ++ mapList r
  | .extend p _ _ => mapList p
  | .values _ => []
  | .orderBy p _ => mapList p
  | .project p _ => mapList p
  | .distinct p => mapList p
  | .reduced p => mapList p
  | .slice p _ _ => mapList p

/-- The solution maps of some plans. -/
def mapLists : List Plan → List SolutionMap
  | [] => []
  | p :: ps => mapList p ++ mapLists ps

end

mutual

/-- No part of the plan leaves out solutions that are equal to the next one. -/
def isUnreduced : Plan → Bool
  | .maps _ => true
  | .join l r => isUnreduced l && isUnreduced r
  | .leftJoin l r _ => isUnreduced l && isUnreduced r
  | .filter p _ => isUnreduced p
  | .union ps => areUnreduced ps
  | .minus l r => isUnreduced l && isUnreduced r
  | .extend p _ _ => isUnreduced p
  | .values _ => true
  | .orderBy p _ => isUnreduced p
  | .project p _ => isUnreduced p
  | .distinct p => isUnreduced p
  | .reduced _ => false
  | .slice p _ _ => isUnreduced p

/-- No part of the plans leaves out solutions that are equal to the next one. -/
def areUnreduced : List Plan → Bool
  | [] => true
  | p :: ps => isUnreduced p && areUnreduced ps

end

theorem mapLists_eq_flatMap (ps : List Plan) :
  mapLists ps = ps.flatMap mapList
  := by
  induction ps with
  | nil => rfl
  | cons p ps ih => rw [mapLists, ih, List.flatMap_cons]

theorem areUnreduced_eq_all (ps : List Plan) :
  areUnreduced ps = ps.all isUnreduced
  := by
  induction ps with
  | nil => rfl
  | cons p ps ih => rw [areUnreduced, ih, List.all_cons]

/-! ### Solutions of narrowed plans -/

variable {db : Database} {n : Nat}

theorem perm_filter_ownItems {ms : List SolutionMap} (hms : ∀ m ∈ ms, m.Narrowable db)
    (hown : ∀ m ∈ ms, m.bindings db = .ok (ownItems db m))
    (hown' : ∀ m ∈ ms.filterMap fun m => m.substitute? b, m.bindings db = .ok (ownItems db m)) :
  (((ms.filterMap fun m => m.substitute? b).flatMap (ownItems db)).filter (·.compatible b)).Perm
    ((ms.flatMap (ownItems db)).filter (·.compatible b))
  := by
  induction ms with
  | nil => apply List.Perm.refl
  | cons m ms ih =>
    rw [List.forall_mem_cons] at hms hown
    rw [List.flatMap_cons, List.filter_append]
    cases hs : m.substitute? b with
    | none =>
      simp only [List.filterMap_cons, hs] at hown' ⊢
      rw [SolutionMap.filter_compatible_of_substitute?_eq_none hms.1 hs hown.1]
      apply ih hms.2 hown.2 hown'
    | some s =>
      simp only [List.filterMap_cons, hs, List.forall_mem_cons] at hown' ⊢
      rw [List.flatMap_cons, List.filter_append]
      apply List.Perm.append
      · apply SolutionMap.perm_filter_compatible hms.1 hs hown.1 hown'.1
      · apply ih hms.2 hown.2 hown'.2

/-- Narrowing solution maps keeps the compatible bindings. -/
theorem perm_filter_maps (hn : 0 < n) {ms : List SolutionMap}
    (hms : ∀ m ∈ ms, m.Narrowable db) {xs ys : List Binding}
    (hxs : (Plan.maps ms).Answers db n xs)
    (hys : (Plan.maps (ms.filterMap fun m => m.substitute? b)).Answers db n ys) :
  (ys.filter (·.compatible b)).Perm (xs.filter (·.compatible b))
  := by
  have hnarrowed : ∀ s ∈ ms.filterMap fun m => m.substitute? b, s.WellFormed := by
    intro s hs
    obtain ⟨m, hm, hs⟩ := List.mem_filterMap.1 hs
    apply ((hms m hm).of_substitute? hs).1
  obtain ⟨hown, hxs⟩ := Answers.of_maps hn (fun m hm => (hms m hm).wellFormed) hxs
  obtain ⟨hown', hys⟩ := Answers.of_maps hn hnarrowed hys
  apply (hys.filter _).trans
  apply (perm_filter_ownItems hms hown hown').trans
  apply (hxs.filter _).symm

theorem perm_filter_union {ps : List Plan} {xss yss : List (List Binding)}
    (hxss : List.Forall₂ (Answers db n) ps xss)
    (hyss : List.Forall₂ (Answers db n) (narrowAll b ps) yss)
    (h : ∀ p ∈ ps, ∀ xs ys, p.Answers db n xs → (p.narrow b).Answers db n ys
      → (ys.filter (·.compatible b)).Perm (xs.filter (·.compatible b))) :
  (yss.flatten.filter (·.compatible b)).Perm (xss.flatten.filter (·.compatible b))
  := by
  induction hxss generalizing yss with
  | nil =>
    cases hyss
    apply List.Perm.refl
  | @cons p xs ps xss hxs _ ih =>
    rw [List.forall_mem_cons] at h
    obtain ⟨ys, yss, hys, hrest, rfl⟩ := List.forall₂_cons_left_iff.1 hyss
    rw [List.flatten_cons, List.flatten_cons, List.filter_append, List.filter_append]
    apply List.Perm.append (h.1 xs ys hxs hys) (ih hrest h.2)

/-- What a plan answers with when it is narrowed to bindings is a function of these. -/
theorem exists_answers_narrow (p : Plan) :
  ∃ f : Binding → List Binding, ∀ a ys, (p.narrow a).Answers db n ys → f a = ys
  := by
  have h : ∀ a, ∃ zs, ∀ ys, (p.narrow a).Answers db n ys → zs = ys := by
    intro a
    by_cases hzs : ∃ zs, (p.narrow a).Answers db n zs
    · obtain ⟨zs, hzs⟩ := hzs
      use zs
      intro ys hys
      apply hzs.unique hys
    · use []
      intro ys hys
      apply absurd ⟨ys, hys⟩ hzs
  choose f hf using h
  use f

/-- A plan and the plan that is narrowed to a binding have the same solutions that are compatible
with the binding. -/
theorem perm_filter_narrow (hn : 0 < n) {p : Plan} (hp : p.isUnreduced = true)
    (hm : ∀ m ∈ p.mapList, m.Narrowable db) {b : Binding} {xs ys : List Binding}
    (hxs : p.Answers db n xs) (hys : (p.narrow b).Answers db n ys) :
  (ys.filter (·.compatible b)).Perm (xs.filter (·.compatible b))
  := by
  induction p generalizing b xs ys with
  | maps ms => apply perm_filter_maps hn hm hxs hys
  | join l r ihl ihr =>
    rw [isUnreduced, Bool.and_eq_true] at hp
    rw [mapList, List.forall_mem_append] at hm
    obtain ⟨as, has, hxs⟩ := hxs.of_join hn
    obtain ⟨as', has', hys⟩ := hys.of_join hn
    have hleft := ihl hp.1 hm.1 has has'
    obtain ⟨rfl, rfl⟩ | ⟨bs, hbs, rfl⟩ := hxs
    · obtain ⟨rfl, rfl⟩ | ⟨bs', hbs', rfl⟩ := hys
      · apply List.Perm.refl
      · apply perm_filter_joined hleft (List.Perm.refl (bs'.filter _))
    · obtain ⟨rfl, rfl⟩ | ⟨bs', hbs', rfl⟩ := hys
      · apply perm_filter_joined hleft (List.Perm.refl (bs.filter _))
      · apply perm_filter_joined hleft (ihr hp.2 hm.2 hbs hbs')
  | leftJoin l r e ihl _ =>
    rw [isUnreduced, Bool.and_eq_true] at hp
    rw [mapList, List.forall_mem_append] at hm
    obtain ⟨as, has, zs, hzs, rfl⟩ := hxs.of_leftJoin hn
    obtain ⟨as', has', zs', hzs', rfl⟩ := hys.of_leftJoin hn
    obtain ⟨f, hf⟩ := @exists_answers_narrow db n r
    have hflat : ∀ {as : List Binding} {zs : Binding → List Binding},
        (∀ a ∈ as, (r.narrow a).Answers db n (zs a))
        → (as.flatMap fun a => optionally (zs a) e a)
          = as.flatMap fun a => optionally (f a) e a := by
      intro as zs hzs
      apply List.flatMap_congr
      intro a ha
      rw [hf a _ (hzs a ha)]
    rw [hflat hzs, hflat hzs']
    apply perm_filter_flatMap (fun a x => compatible_of_optionally) (ihl hp.1 hm.1 has has')
  | filter p e ih =>
    obtain ⟨as, has, rfl⟩ := hxs.of_filter hn
    obtain ⟨as', has', rfl⟩ := hys.of_filter hn
    apply perm_filter_filter (ih hp hm has has')
  | union ps ih =>
    rw [isUnreduced, areUnreduced_eq_all, List.all_eq_true] at hp
    rw [mapList, mapLists_eq_flatMap] at hm
    obtain ⟨xss, hxss, rfl⟩ := hxs.of_union hn
    obtain ⟨yss, hyss, rfl⟩ := hys.of_union hn
    apply perm_filter_union hxss hyss
    intro p hmem xs ys hxs hys
    apply ih p hmem (hp p hmem) _ hxs hys
    intro m hm'
    apply hm m (List.mem_flatMap.2 ⟨p, hmem, hm'⟩)
  | minus l r ihl _ =>
    rw [isUnreduced, Bool.and_eq_true] at hp
    rw [mapList, List.forall_mem_append] at hm
    obtain ⟨as, has, hxs⟩ := hxs.of_minus hn
    obtain ⟨as', has', hys⟩ := hys.of_minus hn
    have hleft := ihl hp.1 hm.1 has has'
    obtain ⟨rfl, rfl⟩ | ⟨bs, hbs, rfl⟩ := hxs
    · obtain ⟨rfl, rfl⟩ | ⟨bs', hbs', rfl⟩ := hys
      · apply List.Perm.refl
      · apply perm_filter_filter hleft
    · obtain ⟨rfl, rfl⟩ | ⟨bs', hbs', rfl⟩ := hys
      · apply perm_filter_filter hleft
      · rw [hbs.unique hbs']
        apply perm_filter_filter hleft
  | extend p v e ih =>
    obtain ⟨as, has, rfl⟩ := hxs.of_extend hn
    obtain ⟨as', has', rfl⟩ := hys.of_extend hn
    apply perm_filter_map _ (ih hp hm has has')
    intro a
    apply compatible_erase_of_extended
  | values bs =>
    rw [hxs.of_values, hys.of_values, List.filter_filter]
    simp
  | orderBy p keys ih =>
    obtain ⟨as, has, rfl⟩ := hxs.of_orderBy hn
    obtain ⟨as', has', rfl⟩ := hys.of_orderBy hn
    apply ((List.mergeSort_perm as' _).filter _).trans
    apply (ih hp hm has has').trans
    apply ((List.mergeSort_perm as _).filter _).symm
  | project p vs ih =>
    obtain ⟨as, has, rfl⟩ := hxs.of_project hn
    obtain ⟨as', has', rfl⟩ := hys.of_project hn
    apply perm_filter_map _ (ih hp hm has has')
    intro a
    apply compatible_restrict_iff.1
  | distinct p ih =>
    obtain ⟨as, has, rfl⟩ := hxs.of_distinct hn
    obtain ⟨as', has', rfl⟩ := hys.of_distinct hn
    rw [← Database.dedup_filter, ← Database.dedup_filter]
    apply Database.perm_dedup
    intro x
    apply (ih hp hm has has').mem_iff
  | reduced p _ => cases hp
  | slice p start length _ => rw [hxs.unique hys]

/-- A left join has the solutions that it has when its right plan is not narrowed. -/
theorem perm_leftJoin (hn : 0 < n) {l p : Plan} {e : Expression} (hp : p.isUnreduced = true)
    (hm : ∀ m ∈ p.mapList, m.Narrowable db) {as ys xs : List Binding} (has : l.Answers db n as)
    (hys : p.Answers db n ys) (hxs : (Plan.leftJoin l p e).Answers db n xs) :
  xs.Perm (as.flatMap (optionally ys e))
  := by
  obtain ⟨as', has', zs, hzs, rfl⟩ := hxs.of_leftJoin hn
  rw [has.unique has']
  apply List.Perm.flatMap_left
  intro a ha
  apply perm_optionally
  apply perm_filter_narrow hn hp hm hys (hzs a ha)

/-- Narrowing a plan to a binding loses and invents no solution that is compatible with the binding,
if all queries succeed.  Hence a left join, which narrows its right plan to each left solution, gives
the solutions that it would give with those of the right plan as it is. -/
theorem narrow_delivers_compatible (hn : 0 < n) {p : Plan} (hp : p.isUnreduced = true)
    (hm : ∀ m ∈ p.mapList, m.Narrowable db) {ys : List Binding}
    (hys : p.Delivers db n (ys.map .ok)) :
  (∀ b, ∃ is, (p.narrow b).Delivers db n is
      ∧ ∀ xs : List Binding, is = xs.map .ok
        → (xs.filter (·.compatible b)).Perm (ys.filter (·.compatible b)))
    ∧ ∀ (l : Plan) (e : Expression) (as : List Binding), l.Delivers db n (as.map .ok)
      → ∃ is, (Plan.leftJoin l p e).Delivers db n is
        ∧ ∀ xs : List Binding, is = xs.map .ok → xs.Perm (as.flatMap (optionally ys e))
  := by
  rw [← answers_iff_delivers hn] at hys
  constructor
  · intro b
    obtain ⟨is, his⟩ := @exists_delivers db n hn (p.narrow b)
    use is, his
    rintro xs rfl
    rw [← answers_iff_delivers hn] at his
    apply perm_filter_narrow hn hp hm hys his
  · intro l e as has
    obtain ⟨is, his⟩ := @exists_delivers db n hn (.leftJoin l p e)
    use is, his
    rintro xs rfl
    rw [← answers_iff_delivers hn] at has his
    apply perm_leftJoin hn hp hm has hys his

/-! ### An example -/

/-- A table of persons. -/
def personTable : Table := ⟨none, "person"⟩

/-- Two persons with a name and one without. -/
def personDatabase : Database where
  tables := .ofList [(personTable,
    ⟨["id", "name"], [[some "1", some "Ann"], [some "2", some "Bob"], [some "3", none]]⟩)]
  failsOnClose := false

/-- Persons and their names.  Rows may repeat, so that repetitions are left out. -/
def personMap : SolutionMap :=
  .ofRelation (.ofDatabase "db")
    [(⟨"person"⟩, .typed .iri (.template ⟨"ex:", [⟨⟨personTable, "id"⟩, .plain, ""⟩]⟩)),
      (⟨"name"⟩, .typed (.literal Datatype.string none) (.column ⟨personTable, "name"⟩))]

/-- The binding of a person. -/
def personBinding (id : String) : Binding := .ofList [(⟨"person"⟩, .iri ⟨"ex:" ++ id⟩)]

/-- The binding of a person and a name. -/
def nameBinding (id name : String) : Binding :=
  .ofList [(⟨"person"⟩, .iri ⟨"ex:" ++ id⟩), (⟨"name"⟩, .literal (.simple name))]

theorem bindings_personMap :
  personMap.bindings personDatabase = .ok [nameBinding "1" "Ann", nameBinding "2" "Bob"]
  := by
  apply eq_ok_of_toOption
  decide

theorem narrowable_personMap :
  personMap.Narrowable personDatabase
  := by
  have hentries : personMap.entries
      = [(⟨"name"⟩, .typed (.literal Datatype.string none) (.column ⟨personTable, "name"⟩)),
        (⟨"person"⟩, .typed .iri (.template ⟨"ex:", [⟨⟨personTable, "id"⟩, .plain, ""⟩]⟩))] := by
    decide
  constructor
  · apply SolutionMap.wellFormed_build
    simp
  · rfl
  · rfl
  · left
    rfl
  · simp [hentries, TermMap.LowerCase, TermKind.LowerCase]
  · intro rows _ row _
    simp only [hentries, List.forall_mem_cons, TermMap.Unambiguous, ValueMap.Unambiguous]
    use True.intro
    constructor
    · intro text _
      apply Template.cutsOnce_singleton
    · simp
  · right
    rw [hentries]
    decide

theorem narrow_delivers_compatible_personMap :
  0 < 2 ∧ (Plan.maps [personMap]).isUnreduced = true
    ∧ (∀ m ∈ (Plan.maps [personMap]).mapList, m.Narrowable personDatabase)
    ∧ (Plan.maps [personMap]).Delivers personDatabase 2
      ([nameBinding "1" "Ann", nameBinding "2" "Bob"].map .ok)
    ∧ (∃ is, ((Plan.maps [personMap]).narrow (personBinding "1")).Delivers personDatabase 2 is
      ∧ ∀ xs : List Binding, is = xs.map .ok
        → (xs.filter (·.compatible (personBinding "1"))).Perm [nameBinding "1" "Ann"])
    ∧ ∃ is, (Plan.leftJoin (.values [personBinding "1", personBinding "3"]) (.maps [personMap])
        (.bound ⟨"name"⟩)).Delivers personDatabase 2 is
      ∧ ∀ xs : List Binding, is = xs.map .ok → xs.Perm [nameBinding "1" "Ann", personBinding "3"]
  := by
  have hmaps : ∀ m ∈ (Plan.maps [personMap]).mapList, m.Narrowable personDatabase := by
    intro m hm
    rw [List.mem_singleton.1 hm]
    apply narrowable_personMap
  have hys : (Plan.maps [personMap]).Delivers personDatabase 2
      ([nameBinding "1" "Ann", nameBinding "2" "Bob"].map .ok) :=
    (answers_iff_delivers (by decide)).1 (answers_singleton (by decide) bindings_personMap)
  have h := narrow_delivers_compatible (by decide) rfl hmaps hys
  use by decide, rfl, hmaps, hys
  constructor
  · have hcompatible : [nameBinding "1" "Ann", nameBinding "2" "Bob"].filter
        (·.compatible (personBinding "1")) = [nameBinding "1" "Ann"] := by
      decide
    rw [← hcompatible]
    apply h.1
  · have hleft : [personBinding "1", personBinding "3"].flatMap
        (optionally [nameBinding "1" "Ann", nameBinding "2" "Bob"] (.bound ⟨"name"⟩))
          = [nameBinding "1" "Ann", personBinding "3"] := by
      decide
    rw [← hleft]
    apply h.2
    apply Machine.Gives.delivers (Solutions.gives_ready _) live_start

/-! ### Checks on other variables -/

/-- A check on a variable that has no term map. -/
def unboundCheck : SolutionMap :=
  .build .trivial .empty [(⟨"person"⟩, .fixed (.iri ⟨"ex:1"⟩))]

/-- A map with such a check gives no binding.  Narrowed to a binding of the variable, it loses the
check and gives a binding that is compatible with it. -/
theorem narrow_unboundCheck :
  (∀ e ∈ unboundCheck.entries, ∃ t, e.2 = .fixed t) ∧ unboundCheck.relation.unique = true
    ∧ unboundCheck.relation.limit = none ∧ unboundCheck.relation.limitInverse = none
    ∧ (Plan.maps [unboundCheck]).Delivers personDatabase 1 []
    ∧ ((Plan.maps [unboundCheck]).narrow (personBinding "1")).Delivers personDatabase 1
      ([Binding.empty].map .ok)
    ∧ Binding.empty.compatible (personBinding "1") = true
  := by
  have hsubstitute : unboundCheck.substitute? (personBinding "1") = some .trivial := by
    decide
  have hnarrow : (Plan.maps [unboundCheck]).narrow (personBinding "1") = .maps [.trivial] := by
    simp [narrow, hsubstitute]
  have hbindings : unboundCheck.bindings personDatabase = .ok [] := by
    apply eq_ok_of_toOption
    decide
  have hbindings' : SolutionMap.trivial.bindings personDatabase = .ok [Binding.empty] := by
    apply eq_ok_of_toOption
    decide
  rw [hnarrow]
  use by simp [SolutionMap.entries, unboundCheck, SolutionMap.build, SortedMap.empty], rfl, rfl, rfl
  use (answers_iff_delivers (by decide)).1 (answers_singleton (by decide) hbindings)
  use (answers_iff_delivers (by decide)).1 (answers_singleton (by decide) hbindings')
  decide

end Plan

end RelGraph.Engine
