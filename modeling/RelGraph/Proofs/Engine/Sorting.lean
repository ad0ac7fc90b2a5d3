import Mathlib.Order.Compare
import Mathlib.Tactic.Common
import RelGraph.Proofs.Engine.Machine
import RelGraph.Proofs.Engine.Steps
import RelGraph.Proofs.Sparql.ValueOrder

/-!
# Sorted solutions

Solutions are sorted by the values of some keys.  If the values of each key are sorted by their
texts, or are exact numbers, the solutions that come out are those that went in, no solution comes
before one that precedes it, and those with the same keys keep their order.
-/

namespace RelGraph.Engine

open Rdf Sparql

variable {keys : List SortKey} {a b : Binding} {bs : List Binding}

/-! ### Keys -/

/-- The value of the key is smaller for the first solution, or larger if the key is descending. -/
def Before (k : SortKey) (a b : Binding) : Prop :=
  Value.orderOptions (k.expression.eval a) (k.expression.eval b) = if k.descending then .gt else .lt

/-- The values of all keys are equal. -/
def Tied (keys : List SortKey) (a b : Binding) : Prop :=
  ∀ k ∈ keys, Value.orderOptions (k.expression.eval a) (k.expression.eval b) = .eq

instance (keys : List SortKey) (a b : Binding) : Decidable (Tied keys a b) :=
  inferInstanceAs (Decidable (∀ k ∈ keys, _ = _))

/-- The first key whose values differ puts the first solution before the second one. -/
inductive Precedes : List SortKey → Binding → Binding → Prop where
  | here {k : SortKey} {ks : List SortKey} {a b : Binding} :
    Before k a b → Precedes (k :: ks) a b
  | later {k : SortKey} {ks : List SortKey} {a b : Binding} :
    Value.orderOptions (k.expression.eval a) (k.expression.eval b) = .eq → Precedes ks a b →
      Precedes (k :: ks) a b

/-- The literals of the values of a key are all sorted by their texts, or all exact numbers. -/
def OfOneFamily (bs : List Binding) (k : SortKey) : Prop :=
  (∀ b ∈ bs, Value.AmongTexts (k.expression.eval b)) ∨
    ∀ b ∈ bs, Value.AmongNumbers (k.expression.eval b)

instance (bs : List Binding) (k : SortKey) : Decidable (OfOneFamily bs k) :=
  inferInstanceAs (Decidable (_ ∨ _))

theorem compareBy_eq_eq_iff {k : SortKey} :
  compareBy k a b = .eq ↔
    Value.orderOptions (k.expression.eval a) (k.expression.eval b) = .eq
  := by
  rw [compareBy]
  cases k.descending <;> simp

theorem compareBy_eq_lt_iff {k : SortKey} : compareBy k a b = .lt ↔ Before k a b := by
  rw [compareBy, Before]
  cases k.descending <;> simp [Ordering.swap_eq_lt]

theorem compareByAll_eq_eq_iff : compareByAll keys a b = .eq ↔ Tied keys a b := by
  induction keys with
  | nil => simp [compareByAll, Tied]
  | cons k ks ih =>
    rw [compareByAll, Ordering.then_eq_eq, compareBy_eq_eq_iff, ih]
    simp [Tied]

theorem compareByAll_eq_lt_iff : compareByAll keys a b = .lt ↔ Precedes keys a b := by
  induction keys with
  | nil =>
    constructor
    · intro h
      cases h
    · intro h
      cases h
  | cons k ks ih =>
    rw [compareByAll, Ordering.then_eq_lt, compareBy_eq_lt_iff, compareBy_eq_eq_iff, ih]
    constructor
    · rintro (h | ⟨heq, h⟩)
      · exact .here h
      · exact .later heq h
    · rintro (h | ⟨heq, h⟩)
      · exact .inl h
      · exact .inr ⟨heq, h⟩

/-! ### Total preorders -/

/-- Keys whose values are in a total preorder put the solutions into one, in both directions. -/
theorem transCmp_compareBy_of_eq {k : SortKey} {c : Option Value → Option Value → Ordering}
    [Std.TransCmp c]
    (h : ∀ a ∈ bs, ∀ b ∈ bs,
      Value.orderOptions (k.expression.eval a) (k.expression.eval b) =
        c (k.expression.eval a) (k.expression.eval b)) :
  Std.TransCmp fun x y : {b // b ∈ bs} => compareBy k x.1 y.1
  := by
  cases hk : k.descending with
  | false =>
    apply Value.transCmp_of_eq (c := c) (fun x => k.expression.eval x.1)
    intro x y
    simp [compareBy, hk, h x.1 x.2 y.1 y.2]
  | true =>
    have hopposite : Std.TransCmp fun v w => c w v := Std.TransCmp.opposite
    apply Value.transCmp_of_eq (c := fun v w => c w v) (fun x => k.expression.eval x.1)
    intro x y
    simp only [compareBy, hk, h x.1 x.2 y.1 y.2, if_true]
    exact Std.OrientedCmp.eq_swap.symm

theorem transCmp_compareBy {k : SortKey} (h : OfOneFamily bs k) :
  Std.TransCmp fun x y : {b // b ∈ bs} => compareBy k x.1 y.1
  := by
  obtain h | h := h
  · apply transCmp_compareBy_of_eq (c := Value.compareByTexts)
    intro a ha b hb
    exact Value.orderOptions_eq_compareByTexts (h a ha) (h b hb)
  · apply transCmp_compareBy_of_eq (c := Value.compareByUnits)
    intro a ha b hb
    exact Value.orderOptions_eq_compareByUnits (h a ha) (h b hb)

theorem transCmp_compareByAll (h : ∀ k ∈ keys, OfOneFamily bs k) :
  Std.TransCmp fun x y : {b // b ∈ bs} => compareByAll keys x.1 y.1
  := by
  induction keys with
  | nil =>
    apply Value.transCmp_of_eq (c := fun m n : Nat => compare m n) (fun _ => 0)
    intro x y
    rfl
  | cons k ks ih =>
    have hk := transCmp_compareBy (h k List.mem_cons_self)
    have hks := ih fun k' hk' => h k' (List.mem_cons_of_mem k hk')
    exact inferInstanceAs (Std.TransCmp (compareLex (fun x y : {b // b ∈ bs} => compareBy k x.1 y.1)
      fun x y => compareByAll ks x.1 y.1))

/-! ### Sorting -/

theorem sortBindings_perm (keys : List SortKey) (bs : List Binding) :
  (sortBindings keys bs).Perm bs
  := List.mergeSort_perm bs _

section

-- The comparison is a total preorder on the solutions that are sorted, and nowhere else, so they
-- are sorted together with the proofs that they are among them.
variable (hcmp : Std.TransCmp fun x y : {b // b ∈ bs} => compareByAll keys x.1 y.1)

theorem sortBindings_eq_map :
  sortBindings keys bs =
    (bs.attach.mergeSort fun x y => (compareByAll keys x.1 y.1).isLE).map Subtype.val
  := by
  rw [List.map_mergeSort (s := fun a b => (compareByAll keys a b).isLE) fun _ _ _ _ => rfl,
    List.attach_map_subtype_val, sortBindings]

include hcmp

theorem isLE_trans_members (x y z : {b // b ∈ bs}) (hxy : (compareByAll keys x.1 y.1).isLE)
    (hyz : (compareByAll keys y.1 z.1).isLE) :
  (compareByAll keys x.1 z.1).isLE
  := hcmp.isLE_trans hxy hyz

theorem isLE_total_members (x y : {b // b ∈ bs}) :
  ((compareByAll keys x.1 y.1).isLE || (compareByAll keys y.1 x.1).isLE) = true
  := by
  have hswap : compareByAll keys x.1 y.1 = (compareByAll keys y.1 x.1).swap :=
    hcmp.eq_swap
  rw [hswap]
  cases compareByAll keys y.1 x.1 <;> rfl

theorem pairwise_sortBindings :
  (sortBindings keys bs).Pairwise fun a b => (compareByAll keys a b).isLE
  := by
  rw [sortBindings_eq_map, List.pairwise_map]
  exact List.pairwise_mergeSort (isLE_trans_members hcmp) (isLE_total_members hcmp) bs.attach

theorem not_precedes_sortBindings :
  (sortBindings keys bs).Pairwise fun a b => ¬ Precedes keys b a
  := by
  apply (pairwise_sortBindings hcmp).imp_of_mem
  intro a b ha hb hle hprecedes
  rw [(sortBindings_perm keys bs).mem_iff] at ha hb
  rw [← compareByAll_eq_lt_iff] at hprecedes
  exact hcmp.not_isLE_of_lt (a := ⟨b, hb⟩) (b := ⟨a, ha⟩) hprecedes hle

/-- Solutions that are in order already keep it. -/
theorem sublist_sortBindings {cs : List Binding}
    (hle : cs.Pairwise fun a b => (compareByAll keys a b).isLE) (hcs : cs.Sublist bs) :
  cs.Sublist (sortBindings keys bs)
  := by
  rw [← List.attach_map_subtype_val bs, List.sublist_map_iff] at hcs
  obtain ⟨xs, hxs, rfl⟩ := hcs
  rw [List.pairwise_map] at hle
  rw [sortBindings_eq_map]
  apply List.Sublist.map
  exact List.sublist_mergeSort (isLE_trans_members hcmp) (isLE_total_members hcmp) hle hxs

theorem filter_sortBindings {c : Binding} (hc : c ∈ bs) :
  (sortBindings keys bs).filter (Tied keys c) = bs.filter (Tied keys c)
  := by
  have hle : (bs.filter (Tied keys c)).Pairwise fun a b => (compareByAll keys a b).isLE := by
    apply List.pairwise_of_forall_mem_list
    intro a ha b hb
    obtain ⟨ha, hca⟩ := List.mem_filter.mp ha
    obtain ⟨hb, hcb⟩ := List.mem_filter.mp hb
    rw [decide_eq_true_iff, ← compareByAll_eq_eq_iff] at hca hcb
    have hac : compareByAll keys a c = .eq := hcmp.eq_symm (a := ⟨c, hc⟩) (b := ⟨a, ha⟩) hca
    have hab : compareByAll keys a b = .eq :=
      hcmp.eq_trans (a := ⟨a, ha⟩) (b := ⟨c, hc⟩) (c := ⟨b, hb⟩) hac hcb
    rw [hab]
    rfl
  have hsublist := (sublist_sortBindings hcmp hle List.filter_sublist).filter (Tied keys c)
  rw [List.filter_filter] at hsublist
  simp only [Bool.and_self] at hsublist
  have hperm := (sortBindings_perm keys bs).filter (Tied keys c)
  exact (hsublist.eq_of_length hperm.length_eq.symm).symm

end

namespace Solutions

variable {σ κ : Type} {B : Backend σ κ} {n : Nat}

/-! ### Evaluation -/

theorem completes_ready (bs : List Binding) (s : σ) :
  (machine B n).Completes (.ready bs) s (bs.map Except.ok) s
  := by
  induction bs with
  | nil => exact .of_finished rfl
  | cons b bs ih => exact .of_item rfl ih

theorem step_sort {t t' : Solutions κ} {s s' : σ} {e : Event Binding}
    (h : (machine B n).step t s = (e, t', s')) (found : List Binding) :
  (machine B n).step (.sort t keys found) s =
    (((sort t keys found).react e t').1, ((sort t keys found).react e t').2.1,
      closeAll B ((sort t keys found).react e t').2.2 s')
  := by
  have hactive : (sort t keys found).active? = some t := rfl
  have hstep := step_of_active? (B := B) (n := n) hactive s
  rwa [show step B n t s = (e, t', s') from h] at hstep

/-- If the solutions that are left can be read to the end, they are sorted together with those that
have been found. -/
theorem completes_sort (keys : List SortKey) {t : Solutions κ} {s s' : σ} {bs : List Binding}
    (h : (machine B n).Completes t s (bs.map Except.ok) s') (found : List Binding) :
  ∃ s'', (machine B n).Completes (.sort t keys found) s
    ((sortBindings keys (found.reverse ++ bs)).map Except.ok) s''
  := by
  refine Machine.Completes.steps_induction
    (motive := fun t s is => ∀ bs found, is = bs.map Except.ok →
      ∃ s'', (machine B n).Completes (.sort t keys found) s
        ((sortBindings keys (found.reverse ++ bs)).map Except.ok) s'')
    ?_ ?_ ?_ h bs found rfl
  · intro t t' s s' hstep bs found hbs
    rw [List.map_eq_nil_iff.mp hbs.symm, List.append_nil]
    exact ⟨_, .of_quiet (step_sort hstep found) (completes_ready _ _)⟩
  · intro t t' s s' r is hstep ih bs found hbs
    obtain ⟨b, bs, rfl, rfl, his⟩ := List.map_eq_cons_iff.mp hbs.symm
    obtain ⟨s'', hrest⟩ := ih bs (b :: found) his.symm
    rw [List.reverse_cons, List.append_assoc, List.singleton_append] at hrest
    exact ⟨s'', .of_quiet (step_sort hstep found) hrest⟩
  · intro t t' s s' is hstep ih bs found hbs
    obtain ⟨s'', hrest⟩ := ih bs found hbs
    exact ⟨s'', .of_quiet (step_sort hstep found) hrest⟩

/-- The order of values is a total preorder where all literals are sorted by their texts, and where
all of them are exact numbers.  If the values of each key are of one of these kinds, the solutions
of a plan are given in the order of the keys, and those with the same keys in the order of the
plan. -/
theorem orderBy_sorted_stable (B : Backend σ κ) (n : Nat) (p : Plan) (keys : List SortKey)
    (bs : List Binding) (s s' : σ) (hkeys : ∀ k ∈ keys, OfOneFamily bs k)
    (hplan : (machine B n).Completes (ofPlan p) s (bs.map Except.ok) s') :
  (Std.TransCmp fun x y : {v // Value.AmongTexts v} => Value.orderOptions x.1 y.1) ∧
  (Std.TransCmp fun x y : {v // Value.AmongNumbers v} => Value.orderOptions x.1 y.1) ∧
  ∃ (sorted : List Binding) (s'' : σ),
    (machine B n).Completes (ofPlan (.orderBy p keys)) s (sorted.map Except.ok) s'' ∧
    sorted.Perm bs ∧
    (sorted.Pairwise fun a b => ¬ Precedes keys b a) ∧
    ∀ c ∈ bs, sorted.filter (Tied keys c) = bs.filter (Tied keys c)
  := by
  refine ⟨Value.transCmp_amongTexts, Value.transCmp_amongNumbers, sortBindings keys bs, ?_⟩
  have hcmp := transCmp_compareByAll hkeys
  obtain ⟨s'', hsort⟩ := completes_sort keys hplan []
  refine ⟨s'', hsort, sortBindings_perm keys bs, not_precedes_sortBindings hcmp, ?_⟩
  intro c hc
  exact filter_sortBindings hcmp hc

/-- A solution with a name and a number. -/
def entry (name : Term) (number : Literal) : Binding :=
  .ofList [(⟨"name"⟩, name), (⟨"number"⟩, .literal number)]

/-- Names of all kinds, with integers and decimal numbers. -/
def entries : List Binding :=
  [entry (.literal (.simple "b")) (.ofDatatype "1" Datatype.integer),
   entry (.literal (.tagged "a" "en")) (.ofDatatype "1.5" Datatype.decimal),
   entry (.literal (.ofBool true)) (.ofDatatype "1.0" Datatype.decimal),
   .ofList [(⟨"number"⟩, .literal (.ofDatatype "2" Datatype.integer))],
   entry (.iri ⟨"ex:b"⟩) (.ofDatatype "1.50" Datatype.decimal)]

/-- The largest number first, and then by name. -/
def byNumberAndName : List SortKey :=
  [⟨.variable ⟨"number"⟩, true⟩, ⟨.variable ⟨"name"⟩, false⟩]

theorem orderBy_sorted_stable_entries :
  (∀ k ∈ byNumberAndName, OfOneFamily entries k) ∧
  ∃ (sorted : List Binding) (s : Store),
    (machine (memoryBackend ⟨.empty, false⟩ .none) 1).Completes
      (ofPlan (.orderBy (.values entries) byNumberAndName)) .start (sorted.map Except.ok) s ∧
    sorted.Perm entries ∧
    (sorted.Pairwise fun a b => ¬ Precedes byNumberAndName b a) ∧
    ∀ c ∈ entries,
      sorted.filter (Tied byNumberAndName c) = entries.filter (Tied byNumberAndName c)
  := by
  have hkeys : ∀ k ∈ byNumberAndName, OfOneFamily entries k := by decide
  obtain ⟨-, -, hsorted⟩ := orderBy_sorted_stable (memoryBackend ⟨.empty, false⟩ .none) 1
    (.values entries) byNumberAndName entries .start .start hkeys (completes_ready entries _)
  exact ⟨hkeys, hsorted⟩

end Solutions

end RelGraph.Engine
