import RelGraph.Engine.Solutions
import RelGraph.Proofs.Rdf.Binding
import RelGraph.Proofs.Sql.Distinct
import RelGraph.Sparql.Pattern

/-!
# Solutions of patterns

The list of the solutions of a pattern, in the order in which they are found, when the solutions
of its triple patterns are given.  The variables that are certain are bound by every solution, and
a solution binds no variables but the possible ones.
-/

namespace RelGraph.Engine

open Rdf Sparql

/-! ### Operators on lists of solutions -/

/-- The unions of a left solution with the right ones that are compatible with it. -/
def joined (right : List Binding) (a : Binding) : List Binding :=
  right.filterMap a.merge?

/-- The unions of a left solution with right ones on which the condition holds, or the left
solution alone if there are none. -/
def optionally (right : List Binding) (condition : Expression) (a : Binding) : List Binding :=
  match (joined right a).filter condition.holds with
  | [] => [a]
  | found => found

/-- A solution with the value of an expression, if it has one, for a variable that it does not
bind yet. -/
def extended (v : Variable) (e : Expression) (b : Binding) : Binding :=
  match e.eval b with
  | some value => b.insert v value.toTerm
  | none => b

/-- The solutions without those that are equal to the next one. -/
def condensed : List Binding → List Binding
  | [] => []
  | [b] => [b]
  | b :: c :: bs => if b = c then condensed (c :: bs) else b :: condensed (c :: bs)

/-- A part of the solutions. -/
def sliced (start : Nat) (length : Option Nat) (bs : List Binding) : List Binding :=
  match length with
  | some n => (bs.drop start).take n
  | none => bs.drop start

theorem mem_joined {right : List Binding} {a m : Binding} :
  m ∈ joined right a ↔ ∃ c ∈ right, a.merge? c = some m
  := List.mem_filterMap

theorem mem_optionally {right : List Binding} {condition : Expression} {a m : Binding}
    (h : m ∈ optionally right condition a) :
  m = a ∨ ∃ c ∈ right, a.merge? c = some m
  := by
  unfold optionally at h
  split at h
  · left
    apply List.mem_singleton.1 h
  · right
    apply mem_joined.1 (List.mem_filter.1 h).1

theorem get?_extended_of_ne {v w : Variable} (e : Expression) (b : Binding) (h : w ≠ v) :
  (extended v e b).get? w = b.get? w
  := by
  unfold extended
  split
  · apply Binding.get?_insert_of_ne _ _ h
  · rfl

/-- Extending a solution keeps the terms that it has. -/
theorem get?_extended_of_some {v w : Variable} {e : Expression} {t : Term} (h : b.get? w = some t) :
  (extended v e b).get? w = some t
  := by
  by_cases hw : w = v
  · subst hw
    unfold extended
    split
    · rw [Binding.get?_insert_self, h]
      rfl
    · apply h
  · rw [get?_extended_of_ne e b hw, h]

theorem mem_condensed {bs : List Binding} (h : b ∈ condensed bs) :
  b ∈ bs
  := by
  fun_induction condensed bs with
  | case1 => apply h
  | case2 b' => apply h
  | case3 c bs ih => apply List.mem_cons_of_mem _ (ih h)
  | case4 b' c bs hne ih =>
    rw [List.mem_cons] at h ⊢
    apply h.imp_right ih

theorem mem_sliced {start : Nat} {length : Option Nat} {bs : List Binding}
    (h : b ∈ sliced start length bs) :
  b ∈ bs
  := by
  unfold sliced at h
  split at h
  · apply List.mem_of_mem_drop (List.mem_of_mem_take h)
  · apply List.mem_of_mem_drop h

theorem mem_sortBindings {keys : List SortKey} {bs : List Binding} :
  b ∈ sortBindings keys bs ↔ b ∈ bs
  := List.mem_mergeSort

end RelGraph.Engine

namespace RelGraph.Sparql.Pattern

open Rdf Engine Sql

variable {b : Binding} {v : Variable}

mutual

/-- The solutions of a pattern, given those of its triple patterns. -/
def solutions (β : List TriplePattern → List Binding) : Pattern → List Binding
  | .bgp ps => β ps
  | .join l r => (solutions β l).flatMap (joined (solutions β r))
  | .leftJoin l r e => (solutions β l).flatMap (optionally (solutions β r) e)
  | .filter e p => (solutions β p).filter e.holds
  | .union ps => solutionsOfAll β ps
  | .minus l r => (solutions β l).filter (survives (solutions β r))
  | .extend p v e => (solutions β p).map (extended v e)
  | .values vs rows => rows.map (Plan.rowBinding vs)
  | .orderBy p keys => sortBindings keys (solutions β p)
  | .project p vs => (solutions β p).map (·.restrict vs)
  | .distinct p => Database.dedup [] (solutions β p)
  | .reduced p => condensed (solutions β p)
  | .slice p start length => sliced start length (solutions β p)

/-- The solutions of some patterns, one after the other. -/
def solutionsOfAll (β : List TriplePattern → List Binding) : List Pattern → List Binding
  | [] => []
  | p :: ps => solutions β p ++ solutionsOfAll β ps

end

theorem solutionsOfAll_eq_flatMap (β : List TriplePattern → List Binding) (ps : List Pattern) :
  solutionsOfAll β ps = ps.flatMap (solutions β)
  := by
  induction ps with
  | nil => rfl
  | cons p ps ih => rw [solutionsOfAll, ih, List.flatMap_cons]

/-- Induction on patterns, with the hypothesis for every branch of a union. -/
@[induction_eliminator]
theorem induction {motive : Pattern → Prop}
    (bgp : ∀ ps, motive (.bgp ps))
    (join : ∀ l r, motive l → motive r → motive (.join l r))
    (leftJoin : ∀ l r e, motive l → motive r → motive (.leftJoin l r e))
    (filter : ∀ e p, motive p → motive (.filter e p))
    (union : ∀ ps, (∀ p ∈ ps, motive p) → motive (.union ps))
    (minus : ∀ l r, motive l → motive r → motive (.minus l r))
    (extend : ∀ p v e, motive p → motive (.extend p v e))
    (values : ∀ vs rows, motive (.values vs rows))
    (orderBy : ∀ p keys, motive p → motive (.orderBy p keys))
    (project : ∀ p vs, motive p → motive (.project p vs))
    (distinct : ∀ p, motive p → motive (.distinct p))
    (reduced : ∀ p, motive p → motive (.reduced p))
    (slice : ∀ p start length, motive p → motive (.slice p start length)) (p : Pattern) :
  motive p
  := by
  apply @Pattern.rec motive (fun ps => ∀ p ∈ ps, motive p) bgp join leftJoin filter union minus
    extend values orderBy project distinct reduced slice
  · simp
  · intro p ps hp hps
    rw [List.forall_mem_cons]
    use hp

/-! ### Certain variables -/

/-- Each binding of some triple patterns has exactly their variables. -/
def Exact (β : List TriplePattern → List Binding) : Prop :=
  ∀ ps, ∀ b ∈ β ps, ∀ v, b.binds v = true ↔ v ∈ tripleVariables ps

theorem mem_certain_of_common {p : Pattern} {ps : List Pattern} (hp : p ∈ ps)
    (hv : v ∈ commonVariables ps) :
  v ∈ certainVariables p
  := by
  induction ps with
  | nil => simp at hp
  | cons q ps ih =>
    cases ps with
    | nil =>
      rw [List.mem_singleton] at hp
      subst hp
      apply hv
    | cons q' ps =>
      rw [commonVariables, List.mem_filter, List.contains_iff_mem] at hv
      rw [List.mem_cons] at hp
      obtain rfl | hp := hp
      · apply hv.1
      · apply ih hp hv.2

theorem binds_rowBinding {vs : List Variable} {row : List (Option Term)} :
  (Plan.rowBinding vs row).binds v = true ↔ ∃ t, (v, some t) ∈ vs.zip row
  := by
  rw [Plan.rowBinding, Binding.binds_ofList]
  apply exists_congr
  intro t
  simp only [List.mem_filterMap, Prod.exists, Option.map_eq_some_iff, Prod.mk.injEq]
  constructor
  · rintro ⟨w, u, h, t', rfl, rfl, rfl⟩
    apply h
  · intro h
    use v, some t, h, t

/-- A column without gaps gives every row a term of its variable. -/
theorem binds_of_fullColumns {vs : List Variable} {rows : List (List (Option Term))}
    {row : List (Option Term)} (hrow : row ∈ rows) (hv : v ∈ fullColumns vs rows) :
  (Plan.rowBinding vs row).binds v = true
  := by
  simp only [fullColumns, mem_canonical, List.mem_map, List.mem_filter, Prod.exists,
    List.all_eq_true] at hv
  obtain ⟨w, i, ⟨hi, hfull⟩, rfl⟩ := hv
  obtain ⟨t, ht⟩ := Option.isSome_iff_exists.1 (hfull row hrow)
  rw [binds_rowBinding]
  use t
  apply List.mem_iff_getElem?.2
  use i
  rw [List.mem_zipIdx_iff_getElem?] at hi
  rw [List.getElem?_zip_eq_some]
  use hi
  apply Option.join_eq_some_iff.1 ht

theorem binds_extended {e : Expression} {w : Variable} (hw : (extended v e b).binds w = true) :
  w = v ∨ b.binds w = true
  := by
  by_cases h : w = v
  · left
    apply h
  · right
    simpa only [Binding.binds_eq, get?_extended_of_ne e b h] using hw

/-- Every solution binds the certain variables. -/
theorem binds_of_certain {β : List TriplePattern → List Binding} (hβ : Exact β) {p : Pattern}
    (hb : b ∈ solutions β p) (hv : v ∈ certainVariables p) :
  b.binds v = true
  := by
  induction p generalizing b v with
  | bgp ps => apply (hβ ps b hb v).2 hv
  | join l r ihl ihr =>
    obtain ⟨a, ha, hb⟩ := List.mem_flatMap.1 hb
    obtain ⟨c, hc, hm⟩ := mem_joined.1 hb
    rw [certainVariables, mem_canonical, List.mem_append] at hv
    rw [Binding.binds_merge hm]
    apply hv.imp (ihl ha) (ihr hc)
  | leftJoin l r e ihl ihr =>
    obtain ⟨a, ha, hb⟩ := List.mem_flatMap.1 hb
    obtain rfl | ⟨c, hc, hm⟩ := mem_optionally hb
    · apply ihl ha hv
    · rw [Binding.binds_merge hm]
      apply Or.inl (ihl ha hv)
  | filter e p ih => apply ih (List.mem_filter.1 hb).1 hv
  | union ps ih =>
    rw [solutions, solutionsOfAll_eq_flatMap] at hb
    obtain ⟨p, hp, hb⟩ := List.mem_flatMap.1 hb
    apply ih p hp hb (mem_certain_of_common hp hv)
  | minus l r ihl ihr => apply ihl (List.mem_filter.1 hb).1 hv
  | extend p w e ih =>
    obtain ⟨a, ha, rfl⟩ := List.mem_map.1 hb
    apply Binding.binds_of_le _ (ih ha hv)
    intro w t
    apply get?_extended_of_some
  | values vs rows =>
    obtain ⟨row, hrow, rfl⟩ := List.mem_map.1 hb
    apply binds_of_fullColumns hrow hv
  | orderBy p keys ih => apply ih (mem_sortBindings.1 hb) hv
  | project p vs ih =>
    obtain ⟨a, ha, rfl⟩ := List.mem_map.1 hb
    rw [certainVariables, mem_canonical, List.mem_filter, List.contains_iff_mem] at hv
    rw [Binding.binds_restrict]
    use hv.1, ih ha hv.2
  | distinct p ih => apply ih (Database.mem_dedup.1 hb).1 hv
  | reduced p ih => apply ih (mem_condensed hb) hv
  | slice p start length ih => apply ih (mem_sliced hb) hv

/-! ### Possible variables -/

theorem allVariables_eq_flatMap (ps : List Pattern) :
  allVariables ps = ps.flatMap possibleVariables
  := by
  induction ps with
  | nil => rfl
  | cons p ps ih => rw [allVariables, ih, List.flatMap_cons]

/-- A solution binds no variables but the possible ones. -/
theorem possible_of_binds {β : List TriplePattern → List Binding} (hβ : Exact β) {p : Pattern}
    (hb : b ∈ solutions β p) (hv : b.binds v = true) :
  v ∈ possibleVariables p
  := by
  induction p generalizing b v with
  | bgp ps => apply (hβ ps b hb v).1 hv
  | join l r ihl ihr =>
    obtain ⟨a, ha, hb⟩ := List.mem_flatMap.1 hb
    obtain ⟨c, hc, hm⟩ := mem_joined.1 hb
    rw [possibleVariables, mem_canonical, List.mem_append]
    apply ((Binding.binds_merge hm v).1 hv).imp (ihl ha) (ihr hc)
  | leftJoin l r e ihl ihr =>
    obtain ⟨a, ha, hb⟩ := List.mem_flatMap.1 hb
    rw [possibleVariables, mem_canonical, List.mem_append]
    obtain rfl | ⟨c, hc, hm⟩ := mem_optionally hb
    · apply Or.inl (ihl ha hv)
    · apply ((Binding.binds_merge hm v).1 hv).imp (ihl ha) (ihr hc)
  | filter e p ih => apply ih (List.mem_filter.1 hb).1 hv
  | union ps ih =>
    rw [solutions, solutionsOfAll_eq_flatMap] at hb
    obtain ⟨p, hp, hb⟩ := List.mem_flatMap.1 hb
    rw [possibleVariables, mem_canonical, allVariables_eq_flatMap, List.mem_flatMap]
    use p, hp, ih p hp hb hv
  | minus l r ihl ihr => apply ihl (List.mem_filter.1 hb).1 hv
  | extend p w e ih =>
    obtain ⟨a, ha, rfl⟩ := List.mem_map.1 hb
    rw [possibleVariables, mem_canonical, List.mem_cons]
    apply (binds_extended hv).imp_right (ih ha)
  | values vs rows =>
    obtain ⟨row, hrow, rfl⟩ := List.mem_map.1 hb
    obtain ⟨t, ht⟩ := binds_rowBinding.1 hv
    rw [possibleVariables, mem_canonical]
    apply (List.of_mem_zip ht).1
  | orderBy p keys ih => apply ih (mem_sortBindings.1 hb) hv
  | project p vs ih =>
    obtain ⟨a, ha, rfl⟩ := List.mem_map.1 hb
    rw [possibleVariables, mem_canonical]
    apply (Binding.binds_restrict.1 hv).1
  | distinct p ih => apply ih (Database.mem_dedup.1 hb).1 hv
  | reduced p ih => apply ih (mem_condensed hb) hv
  | slice p start length ih => apply ih (mem_sliced hb) hv

end RelGraph.Sparql.Pattern
