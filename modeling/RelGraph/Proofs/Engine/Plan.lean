import RelGraph.Proofs.Engine.Solutions

/-!
# Solutions of plans

The search for the solutions of a plan comes to an end on every database.  A plan answers with some
solutions if the search gives them without an error; what it answers with follows from what its
operands answer with.
-/

namespace RelGraph.Engine

open Rdf Sql Sparql Mapping Machine

variable {xs : List Binding} {is : Items} {p : Plan} {e : Expression}

/-! ### Items without errors -/

theorem map_ok_inj {xs ys : List Binding} :
  xs.map (Except.ok : Binding → Except EvalError Binding) = ys.map Except.ok ↔ xs = ys
  := List.map_inj_right fun _ _ h => Except.ok.inj h

theorem forEach_map_ok (f : Binding → Items) (bs : List Binding) :
  forEach f (bs.map .ok) = bs.flatMap f
  := by
  induction bs with
  | nil => rfl
  | cons b bs ih => rw [List.map_cons, forEach, ih, List.flatMap_cons]

theorem collect_map_ok (bs : List Binding) :
  collect (bs.map .ok) = .ok bs
  := by
  induction bs with
  | nil => rfl
  | cons b bs ih => rw [List.map_cons, collect, ih]; rfl

theorem collect_eq_ok {bs : List Binding} (h : collect is = .ok bs) :
  is = bs.map .ok
  := by
  induction is generalizing bs with
  | nil =>
    cases h
    rfl
  | cons r is ih =>
    cases r with
    | error e => cases h
    | ok b =>
      rw [collect, map_eq_ok] at h
      obtain ⟨cs, hcs, rfl⟩ := h
      rw [List.map_cons, ih hcs]

theorem flatMap_keep (p : Binding → Bool) (bs : List Binding) :
  (bs.flatMap fun b => ((if p b then some b else none).map Except.ok).toList : Items)
    = (bs.filter p).map .ok
  := by
  induction bs with
  | nil => rfl
  | cons b bs ih =>
    rw [List.flatMap_cons, ih, List.filter_cons]
    by_cases hb : p b = true <;> simp [hb]

theorem exists_of_flatMap {α : Type} {f : α → Items} {as : List α} (h : as.flatMap f = xs.map .ok)
    {a : α} (ha : a ∈ as) :
  ∃ ys : List Binding, f a = ys.map .ok
  := by
  induction as generalizing xs with
  | nil => simp at ha
  | cons c as ih =>
    rw [List.flatMap_cons] at h
    obtain ⟨ys, zs, rfl, hys, hzs⟩ := List.append_eq_map_iff.1 h
    rw [List.mem_cons] at ha
    obtain rfl | ha := ha
    · use ys, hys.symm
    · apply ih hzs.symm ha

/-- If no error is passed on, there was none. -/
theorem exists_of_forEach {f : Binding → Items} (h : forEach f is = xs.map .ok) :
  ∃ bs : List Binding, is = bs.map .ok ∧ bs.flatMap f = xs.map .ok
  := by
  induction is generalizing xs with
  | nil =>
    use []
    simpa [forEach] using h
  | cons r is ih =>
    cases r with
    | error e =>
      rw [forEach] at h
      cases xs <;> simp at h
    | ok b =>
      rw [forEach] at h
      obtain ⟨ys, zs, rfl, hys, hzs⟩ := List.append_eq_map_iff.1 h
      obtain ⟨bs, rfl, hbs⟩ := ih hzs.symm
      use b :: bs, rfl
      rw [List.flatMap_cons, hbs, ← hys, List.map_append]

theorem exists_of_collected {done : List Binding → Items} {failed is : Items}
    (h : collected done failed is = xs.map .ok) :
  ∃ bs : List Binding, is = bs.map .ok ∧ done bs = xs.map .ok
  := by
  rw [collected] at h
  split at h
  · rename_i bs hbs
    use bs, collect_eq_ok hbs
  · cases xs <;> simp at h

theorem combined_map_ok (f : List Binding → Binding → Items) (as bs : List Binding) :
  combined f (bs.map .ok) (as.map .ok) = as.flatMap (f bs)
  := by
  cases as with
  | nil => rfl
  | cons a as =>
    rw [List.map_cons, combined, collected, collect_map_ok, List.flatMap_cons]
    simp only [forEach_map_ok]

/-- The right operand matters only if there is a left solution. -/
theorem exists_of_combined {f : List Binding → Binding → Items} {ls rs : Items}
    (h : combined f rs ls = xs.map .ok) :
  ∃ as : List Binding, ls = as.map .ok
    ∧ ((as = [] ∧ xs = []) ∨ ∃ bs : List Binding, rs = bs.map .ok ∧ as.flatMap (f bs) = xs.map .ok)
  := by
  cases ls with
  | nil =>
    use [], rfl
    left
    use rfl
    simpa [combined, eq_comm] using h
  | cons r ls =>
    cases r with
    | error e =>
      rw [combined] at h
      cases xs <;> simp at h
    | ok a =>
      rw [combined] at h
      obtain ⟨bs, hbs, h⟩ := exists_of_collected h
      obtain ⟨ys, zs, rfl, hys, hzs⟩ := List.append_eq_map_iff.1 h
      obtain ⟨as, rfl, has⟩ := exists_of_forEach hzs.symm
      use a :: as, rfl
      right
      use bs, hbs
      rw [List.flatMap_cons, has, ← hys, List.map_append]

/-- If errors are passed on and there is none in the end, there was none. -/
theorem exists_of_transduce {X : Type}
    {f : X → Except EvalError Binding → Option (Except EvalError Binding) × X}
    (hf : ∀ x e, (f x (.error e)).1 = some (.error e)) {last : X → Items} {x : X}
    (h : transduce f last x is = xs.map .ok) :
  ∃ bs : List Binding, is = bs.map .ok
  := by
  induction is generalizing x xs with
  | nil => use []; rfl
  | cons r is ih =>
    rw [transduce] at h
    cases r with
    | error e =>
      rw [hf] at h
      cases xs <;> simp at h
    | ok b =>
      obtain ⟨ys, zs, rfl, -, hzs⟩ := List.append_eq_map_iff.1 h
      obtain ⟨bs, rfl⟩ := ih hzs.symm
      use b :: bs
      rfl

theorem keepNew_map_ok (seen bs : List Binding) :
  transduce keepNew (fun _ => []) seen (bs.map .ok) = (Database.dedup seen bs).map .ok
  := by
  induction bs generalizing seen with
  | nil => rfl
  | cons b bs ih =>
    rw [List.map_cons, transduce, keepNew, Database.dedup]
    split
    · apply ih
    · simp [ih]

theorem exists_of_keepNew {seen : List Binding}
    (h : transduce keepNew (fun _ => []) seen is = xs.map .ok) :
  ∃ bs : List Binding, is = bs.map .ok ∧ xs = Database.dedup seen bs
  := by
  obtain ⟨bs, rfl⟩ := exists_of_transduce (fun _ _ => rfl) h
  use bs, rfl
  rw [← map_ok_inj, ← h, keepNew_map_ok]

theorem filter_joined_cons (e : Expression) (a c : Binding) (bs : List Binding) :
  (joined (c :: bs) a).filter e.holds
    = ((a.merge? c).filter e.holds).toList ++ (joined bs a).filter e.holds
  := by
  rw [joined, List.filterMap_cons]
  cases a.merge? c with
  | none => rfl
  | some m => by_cases hm : e.holds m = true <;> simp [hm, joined, Option.filter]

theorem attach_map_ok (e : Expression) (a : Binding) (matched : Bool) (bs : List Binding) :
  transduce (attach e a) (fun matched => if matched then [] else [.ok a]) matched (bs.map .ok)
    = ((joined bs a).filter e.holds
      ++ if matched || !((joined bs a).filter e.holds).isEmpty then [] else [a]).map .ok
  := by
  induction bs generalizing matched with
  | nil => cases matched <;> rfl
  | cons c bs ih =>
    rw [List.map_cons, transduce, attach, filter_joined_cons]
    cases hm : (a.merge? c).filter e.holds with
    | none => apply ih
    | some m => simp [ih]

theorem optionalItems_map_ok (e : Expression) (a : Binding) (bs : List Binding) :
  optionalItems e a (bs.map .ok) = (optionally bs e a).map .ok
  := by
  rw [optionalItems, attach_map_ok, optionally]
  cases (joined bs a).filter e.holds <;> simp

theorem exists_of_optionalItems {a : Binding} (h : optionalItems e a is = xs.map .ok) :
  ∃ bs : List Binding, is = bs.map .ok ∧ xs = optionally bs e a
  := by
  obtain ⟨bs, rfl⟩ := exists_of_transduce (fun _ _ => rfl) h
  use bs, rfl
  rw [← map_ok_inj, ← h, optionalItems_map_ok]

namespace Plan

/-- Induction on plans, with the hypothesis for every branch of a union. -/
@[induction_eliminator]
theorem induction {motive : Plan → Prop}
    (maps : ∀ ms, motive (.maps ms))
    (join : ∀ l r, motive l → motive r → motive (.join l r))
    (leftJoin : ∀ l r e, motive l → motive r → motive (.leftJoin l r e))
    (filter : ∀ p e, motive p → motive (.filter p e))
    (union : ∀ ps, (∀ p ∈ ps, motive p) → motive (.union ps))
    (minus : ∀ l r, motive l → motive r → motive (.minus l r))
    (extend : ∀ p v e, motive p → motive (.extend p v e))
    (values : ∀ bs, motive (.values bs))
    (orderBy : ∀ p keys, motive p → motive (.orderBy p keys))
    (project : ∀ p vs, motive p → motive (.project p vs))
    (distinct : ∀ p, motive p → motive (.distinct p))
    (reduced : ∀ p, motive p → motive (.reduced p))
    (slice : ∀ p start length, motive p → motive (.slice p start length)) (p : Plan) :
  motive p
  := by
  apply @Plan.rec motive (fun ps => ∀ p ∈ ps, motive p) maps join leftJoin filter union minus
    extend values orderBy project distinct reduced slice
  · simp
  · intro p ps hp hps
    rw [List.forall_mem_cons]
    use hp

theorem narrowAll_eq_map (b : Binding) (ps : List Plan) :
  narrowAll b ps = ps.map (narrow b)
  := by
  induction ps with
  | nil => rfl
  | cons p ps ih => rw [narrowAll, ih, List.map_cons]

/-! ### Items of plans -/

/-- The items of the search for the solutions of a plan. -/
def Yields (db : Database) (n : Nat) (p : Plan) (is : Items) : Prop :=
  (Solutions.memoryMachine db n).Gives Live (Solutions.ofPlan p) is

variable {db : Database} {n : Nat}

theorem Yields.unique {is js : Items} (h : p.Yields db n is) (h' : p.Yields db n js) :
  is = js
  := Delivers.unique (h.delivers live_start) (h'.delivers live_start)

theorem yields_slice (h : p.Yields db n is) (start : Nat) (length : Option Nat) :
  (Plan.slice p start length).Yields db n
    (match length with
      | some k => (is.drop start).take k
      | none => is.drop start)
  := by
  have hskip : (Solutions.memoryMachine db n).Gives Live
      (if 0 < start then .skip start (Solutions.ofPlan p) else Solutions.ofPlan p)
      (is.drop start) := by
    split
    · rw [← transduce_skipFirst]
      apply Solutions.gives_skip h
    · rename_i hstart
      rw [Nat.eq_zero_of_not_pos hstart]
      apply h
  cases length with
  | none => apply hskip
  | some k => apply Solutions.gives_take hskip

/-- Some plans all of which come to an end have a list of items each. -/
theorem exists_yields_of_forall {ps : List Plan} (h : ∀ p ∈ ps, ∃ is, p.Yields db n is) :
  ∃ iss, List.Forall₂ (Yields db n) ps iss
  := by
  induction ps with
  | nil =>
    use []
    apply List.Forall₂.nil
  | cons p ps ih =>
    rw [List.forall_mem_cons] at h
    obtain ⟨⟨is, his⟩, hps⟩ := h
    obtain ⟨iss, hiss⟩ := ih hps
    use is :: iss
    apply List.Forall₂.cons his hiss

/-- An operator comes to an end if its operand does, also when the operand is narrowed. -/
theorem exists_yields_unary {C : Plan → Plan} (f : Binding → Binding)
    (hC : ∀ {q is}, q.Yields db n is → ∃ js, (C q).Yields db n js)
    (h : (∃ is, p.Yields db n is) ∧ ∀ b, ∃ is, (p.narrow b).Yields db n is) :
  (∃ is, (C p).Yields db n is) ∧ ∀ b, ∃ is, (C (p.narrow (f b))).Yields db n is
  := by
  obtain ⟨⟨is, hp⟩, hnarrow⟩ := h
  use hC hp
  intro b
  obtain ⟨is, hb⟩ := hnarrow (f b)
  apply hC hb

/-- The search comes to an end, also for narrowed plans, which stand on the right of left joins. -/
theorem exists_yields_narrow (hn : 0 < n) (p : Plan) :
  (∃ is, p.Yields db n is) ∧ ∀ b, ∃ is, (p.narrow b).Yields db n is
  := by
  induction p with
  | maps ms =>
    have hscan : ∀ ms, ∃ is, (Plan.maps ms).Yields db n is := fun ms =>
      ⟨_, Solutions.gives_scan (Scan.gives_groups hn (Group.ofList ms))⟩
    use hscan ms
    intro b
    apply hscan
  | join l r ihl ihr =>
    obtain ⟨⟨ls, hl⟩, hls⟩ := ihl
    obtain ⟨⟨rs, hr⟩, hrs⟩ := ihr
    use ⟨_, Solutions.gives_join hl hr⟩
    intro b
    obtain ⟨ls, hl⟩ := hls b
    obtain ⟨rs, hr⟩ := hrs b
    exact ⟨_, Solutions.gives_join hl hr⟩
  | leftJoin l r e ihl ihr =>
    obtain ⟨⟨ls, hl⟩, hls⟩ := ihl
    choose rs hrs using ihr.2
    use ⟨_, Solutions.gives_leftJoin hl hrs⟩
    intro b
    obtain ⟨ls, hl⟩ := hls b
    exact ⟨_, Solutions.gives_leftJoin hl hrs⟩
  | filter p e ih =>
    exact exists_yields_unary (C := (.filter · e)) id (fun h => ⟨_, Solutions.gives_filter h e⟩) ih
  | union ps ih =>
    constructor
    · obtain ⟨iss, hiss⟩ := exists_yields_of_forall fun p hp => (ih p hp).1
      exact ⟨_, Solutions.gives_union hiss⟩
    · intro b
      have hps : ∀ p ∈ narrowAll b ps, ∃ is, p.Yields db n is := by
        rw [narrowAll_eq_map, List.forall_mem_map]
        intro p hp
        apply (ih p hp).2
      obtain ⟨iss, hiss⟩ := exists_yields_of_forall hps
      exact ⟨_, Solutions.gives_union hiss⟩
  | minus l r ihl ihr =>
    obtain ⟨⟨ls, hl⟩, hls⟩ := ihl
    obtain ⟨⟨rs, hr⟩, -⟩ := ihr
    use ⟨_, Solutions.gives_minus hl hr⟩
    intro b
    obtain ⟨ls, hl⟩ := hls b
    exact ⟨_, Solutions.gives_minus hl hr⟩
  | extend p v e ih =>
    exact exists_yields_unary (C := (.extend · v e)) (·.erase v)
      (fun h => ⟨_, Solutions.gives_extend h v e⟩) ih
  | values bs =>
    use ⟨_, Solutions.gives_ready bs⟩
    intro b
    exact ⟨_, Solutions.gives_ready _⟩
  | orderBy p keys ih =>
    exact exists_yields_unary (C := (.orderBy · keys)) id
      (fun h => ⟨_, Solutions.gives_sort h keys⟩) ih
  | project p vs ih =>
    exact exists_yields_unary (C := (.project · vs)) (·.restrict vs)
      (fun h => ⟨_, Solutions.gives_project h vs⟩) ih
  | distinct p ih =>
    exact exists_yields_unary (C := .distinct) id (fun h => ⟨_, Solutions.gives_distinct h []⟩) ih
  | reduced p ih =>
    exact exists_yields_unary (C := .reduced) id (fun h => ⟨_, Solutions.gives_reduced h none⟩) ih
  | slice p start length ih =>
    obtain ⟨⟨is, h⟩, -⟩ := ih
    use ⟨_, yields_slice h start length⟩
    intro b
    exact ⟨_, yields_slice h start length⟩

/-- The search for the solutions of a plan comes to an end. -/
theorem exists_yields (hn : 0 < n) (p : Plan) :
  ∃ is, p.Yields db n is
  := (exists_yields_narrow hn p).1

/-! ### Answers of plans -/

/-- The search gives these solutions and no error. -/
def Answers (db : Database) (n : Nat) (p : Plan) (xs : List Binding) : Prop :=
  p.Yields db n (xs.map .ok)

theorem Answers.unique {xs ys : List Binding} (h : p.Answers db n xs) (h' : p.Answers db n ys) :
  xs = ys
  := map_ok_inj.1 (Yields.unique h h')

theorem Answers.items_eq (h : p.Answers db n xs)
    (h' : (Solutions.memoryMachine db n).Gives Live (Solutions.ofPlan p) is) :
  is = xs.map .ok
  := Yields.unique h' h

/-- The items that are pulled when the solutions of a plan are searched on a database that was not
used yet, with `n` rows fetched at a time. -/
def Delivers (db : Database) (n : Nat) (p : Plan) (is : Items) : Prop :=
  (Solutions.machine (memoryBackend db Faults.none) n).Delivers (Solutions.ofPlan p) Store.start is

theorem exists_delivers (hn : 0 < n) (p : Plan) :
  ∃ is, p.Delivers db n is
  := by
  obtain ⟨is, his⟩ := @exists_yields db n hn p
  use is, his.delivers live_start

/-- A plan answers with the solutions that are pulled. -/
theorem answers_iff_delivers (hn : 0 < n) :
  p.Answers db n xs ↔ p.Delivers db n (xs.map .ok)
  := by
  constructor
  · intro h
    apply h.delivers live_start
  · intro h
    obtain ⟨is, his⟩ := @exists_yields db n hn p
    have heq : is = xs.map .ok := (his.delivers live_start).unique h
    rw [Answers, ← heq]
    apply his

/-- Solution maps give the bindings that each of them gives on its own, in some order. -/
theorem Answers.of_maps (hn : 0 < n) {ms : List SolutionMap} (hms : ∀ m ∈ ms, m.WellFormed)
    (h : (Plan.maps ms).Answers db n xs) :
  (∀ m ∈ ms, m.bindings db = .ok (ownItems db m)) ∧ xs.Perm (ms.flatMap (ownItems db))
  := by
  have heq : ((Group.ofList ms).flatMap fun g => delivered (g.answer db)) = xs.map .ok :=
    h.items_eq (Solutions.gives_scan (Scan.gives_groups hn _))
  have hanswer : ∀ g ∈ Group.ofList ms, ∃ is, g.answer db = .ok is := by
    intro g hg
    obtain ⟨ys, hys⟩ := exists_of_flatMap heq hg
    cases hanswer : g.answer db with
    | ok is => use is
    | error e =>
      rw [hanswer, delivered] at hys
      cases ys <;> simp at hys
  choose! answers hanswers using hanswer
  have hxs : (Group.ofList ms).flatMap answers = xs := by
    rw [← map_ok_inj, ← heq, List.map_flatMap]
    apply List.flatMap_congr
    intro g hg
    rw [hanswers g hg, delivered]
  rw [← hxs]
  apply Group.perm_ownItems_ofList _ hanswers
  intro m hm he row row' hrow
  apply SolutionMap.make?_congr
  intro c hc
  apply hrow
  rw [show Member.relation m = m.relation from rfl, (hms m hm).projections he, mem_canonical]
  apply hc

/-- A single solution map answers with its bindings. -/
theorem answers_singleton (hn : 0 < n) {m : SolutionMap} (h : m.bindings db = .ok xs) :
  (Plan.maps [m]).Answers db n xs
  := by
  have hgroup : (Group.single m).answer db = m.bindings db := Group.answer_single db m
  have hgives := @Scan.gives_groups SolutionMap _ _ db n hn [Group.single m]
  rw [List.flatMap_singleton, hgroup, h] at hgives
  apply Solutions.gives_scan hgives

theorem Answers.of_join (hn : 0 < n) {l r : Plan} (h : (Plan.join l r).Answers db n xs) :
  ∃ as, l.Answers db n as
    ∧ ((as = [] ∧ xs = []) ∨ ∃ bs, r.Answers db n bs ∧ xs = as.flatMap (joined bs))
  := by
  obtain ⟨ls, hl⟩ := @exists_yields db n hn l
  obtain ⟨rs, hr⟩ := @exists_yields db n hn r
  obtain ⟨as, rfl, has⟩ := exists_of_combined (h.items_eq (Solutions.gives_join hl hr))
  use as, hl
  apply has.imp_right
  rintro ⟨bs, rfl, hbs⟩
  use bs, hr
  rw [← List.map_flatMap, map_ok_inj] at hbs
  rw [hbs]

theorem Answers.of_leftJoin (hn : 0 < n) {l r : Plan} (h : (Plan.leftJoin l r e).Answers db n xs) :
  ∃ as, l.Answers db n as ∧ ∃ ys : Binding → List Binding,
    (∀ a ∈ as, (r.narrow a).Answers db n (ys a))
      ∧ xs = as.flatMap fun a => optionally (ys a) e a
  := by
  obtain ⟨ls, hl⟩ := @exists_yields db n hn l
  choose rs hr using fun a => @exists_yields db n hn (r.narrow a)
  obtain ⟨as, rfl, has⟩ := exists_of_forEach (h.items_eq (Solutions.gives_leftJoin hl hr))
  use as, hl
  -- an error of one of the narrowed plans would be passed on
  have hright : ∀ a ∈ as, ∃ ys : List Binding, rs a = ys.map .ok
      ∧ optionalItems e a (rs a) = (optionally ys e a).map .ok := by
    intro a ha
    obtain ⟨zs, hzs⟩ := exists_of_flatMap has ha
    obtain ⟨ys, hys, rfl⟩ := exists_of_optionalItems hzs
    use ys, hys
  choose! ys hys using hright
  use ys
  constructor
  · intro a ha
    rw [Answers, ← (hys a ha).1]
    apply hr
  · rw [← map_ok_inj, ← has, List.map_flatMap]
    apply List.flatMap_congr
    intro a ha
    apply (hys a ha).2

theorem Answers.of_filter (hn : 0 < n) (h : (Plan.filter p e).Answers db n xs) :
  ∃ as, p.Answers db n as ∧ xs = as.filter e.holds
  := by
  obtain ⟨is, hp⟩ := @exists_yields db n hn p
  obtain ⟨as, rfl, has⟩ := exists_of_forEach (h.items_eq (Solutions.gives_filter hp e))
  use as, hp
  rw [flatMap_keep, map_ok_inj] at has
  rw [has]

theorem Answers.of_minus (hn : 0 < n) {l r : Plan} (h : (Plan.minus l r).Answers db n xs) :
  ∃ as, l.Answers db n as
    ∧ ((as = [] ∧ xs = []) ∨ ∃ bs, r.Answers db n bs ∧ xs = as.filter (survives bs))
  := by
  obtain ⟨ls, hl⟩ := @exists_yields db n hn l
  obtain ⟨rs, hr⟩ := @exists_yields db n hn r
  obtain ⟨as, rfl, has⟩ := exists_of_combined (h.items_eq (Solutions.gives_minus hl hr))
  use as, hl
  apply has.imp_right
  rintro ⟨bs, rfl, hbs⟩
  use bs, hr
  rw [flatMap_keep, map_ok_inj] at hbs
  rw [hbs]

theorem Answers.of_extend (hn : 0 < n) {v : Variable} (h : (Plan.extend p v e).Answers db n xs) :
  ∃ as, p.Answers db n as ∧ xs = as.map (extended v e)
  := by
  obtain ⟨is, hp⟩ := @exists_yields db n hn p
  obtain ⟨as, rfl, has⟩ := exists_of_forEach (h.items_eq (Solutions.gives_extend hp v e))
  use as, hp
  rw [← map_ok_inj, ← has, List.map_map, List.map_eq_flatMap]
  rfl

theorem Answers.of_project (hn : 0 < n) {vs : List Variable}
    (h : (Plan.project p vs).Answers db n xs) :
  ∃ as, p.Answers db n as ∧ xs = as.map (·.restrict vs)
  := by
  obtain ⟨is, hp⟩ := @exists_yields db n hn p
  obtain ⟨as, rfl, has⟩ := exists_of_forEach (h.items_eq (Solutions.gives_project hp vs))
  use as, hp
  rw [← map_ok_inj, ← has, List.map_map, List.map_eq_flatMap]
  rfl

theorem Answers.of_values {bs xs : List Binding} (h : (Plan.values bs).Answers db n xs) :
  xs = bs
  := map_ok_inj.1 (h.items_eq (Solutions.gives_ready bs)).symm

theorem Answers.of_orderBy (hn : 0 < n) {keys : List SortKey}
    (h : (Plan.orderBy p keys).Answers db n xs) :
  ∃ as, p.Answers db n as ∧ xs = sortBindings keys as
  := by
  obtain ⟨is, hp⟩ := @exists_yields db n hn p
  obtain ⟨as, rfl, has⟩ := exists_of_collected (h.items_eq (Solutions.gives_sort hp keys))
  use as, hp
  rw [← map_ok_inj, has]

theorem Answers.of_distinct (hn : 0 < n) (h : (Plan.distinct p).Answers db n xs) :
  ∃ as, p.Answers db n as ∧ xs = Database.dedup [] as
  := by
  obtain ⟨is, hp⟩ := @exists_yields db n hn p
  obtain ⟨as, rfl, has⟩ := exists_of_keepNew (h.items_eq (Solutions.gives_distinct hp []))
  use as, hp

theorem Answers.of_union (hn : 0 < n) {ps : List Plan} (h : (Plan.union ps).Answers db n xs) :
  ∃ xss, List.Forall₂ (Answers db n) ps xss ∧ xs = xss.flatten
  := by
  obtain ⟨iss, hiss⟩ := @exists_yields_of_forall db n ps fun p _ => exists_yields hn p
  have heq : iss.flatten = xs.map .ok := h.items_eq (Solutions.gives_union hiss)
  clear h
  induction hiss generalizing xs with
  | nil =>
    use [], List.Forall₂.nil
    simpa [eq_comm] using heq
  | cons hp _ ih =>
    rw [List.flatten_cons] at heq
    obtain ⟨ys, zs, rfl, rfl, hzs⟩ := List.append_eq_map_iff.1 heq
    obtain ⟨xss, hxss, rfl⟩ := ih hzs.symm
    use ys :: xss, List.Forall₂.cons hp hxss
    rfl

end Plan

end RelGraph.Engine
