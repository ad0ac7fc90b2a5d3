import RelGraph.Proofs.Engine.Reader
import RelGraph.Proofs.Sparql.Solutions

/-!
# Items of plans

What the search for the solutions of a plan gives on a database in memory, errors included: each
operator makes its items out of the items of its operands.  So the search always comes to an end,
and if there is no error, its items are the solutions that the operators give on lists.
-/

namespace RelGraph.Engine

open Rdf Sql Sparql Mapping Machine

/-! ### Operators on items -/

/-- Solutions and errors. -/
abbrev Items : Type := List (Except EvalError Binding)

/-- Passes items on one by one, changed or left out according to a state, and at the end what the
last state gives. -/
def transduce {X : Type} (f : X → Except EvalError Binding → Option (Except EvalError Binding) × X)
    (last : X → Items) : X → Items → Items
  | x, [] => last x
  | x, r :: rs => (f x r).1.toList ++ transduce f last (f x r).2 rs

theorem transduce_append {X : Type}
    (f : X → Except EvalError Binding → Option (Except EvalError Binding) × X)
    (last : X → Items) (x : X) (is js : Items) :
  transduce f (fun x => last x ++ js) x is = transduce f last x is ++ js
  := by
  induction is generalizing x with
  | nil => rfl
  | cons r rs ih => rw [transduce, transduce, ih, List.append_assoc]

/-- Changes a solution or leaves it out; an error is passed on. -/
def keep (f : Binding → Option Binding) :
    Unit → Except EvalError Binding → Option (Except EvalError Binding) × Unit
  | _, .ok b => ((f b).map .ok, ())
  | _, .error e => (some (.error e), ())

/-- Leaves out a solution that was given before. -/
def keepNew : List Binding → Except EvalError Binding
    → Option (Except EvalError Binding) × List Binding
  | seen, .ok b => if b ∈ seen then (none, seen) else (some (.ok b), b :: seen)
  | seen, .error e => (some (.error e), seen)

/-- Holds a solution back until another one comes. -/
def holdBack : Option Binding → Except EvalError Binding
    → Option (Except EvalError Binding) × Option Binding
  | none, .ok b => (none, some b)
  | some c, .ok b => (if c = b then none else some (.ok c), some b)
  | current, .error e => (some (.error e), current)

/-- Leaves the first items out. -/
def skipFirst : Nat → Except EvalError Binding → Option (Except EvalError Binding) × Nat
  | 0, r => (some r, 0)
  | k + 1, _ => (none, k)

/-- Replaces each solution by some items; errors are passed on. -/
def forEach (f : Binding → Items) : Items → Items
  | [] => []
  | .ok b :: is => f b ++ forEach f is
  | .error e :: is => .error e :: forEach f is

theorem transduce_keep (f : Binding → Option Binding) (is : Items) :
  transduce (keep f) (fun _ => []) () is = forEach (fun b => ((f b).map Except.ok).toList) is
  := by
  induction is with
  | nil => rfl
  | cons r is ih =>
    cases r with
    | error e => rw [transduce, forEach, keep, ih]; rfl
    | ok b => rw [transduce, forEach, keep, ih]

/-- All the solutions, or the first error. -/
def collect : Items → Except EvalError (List Binding)
  | [] => .ok []
  | .ok b :: is => (b :: ·) <$> collect is
  | .error e :: _ => .error e

/-- What is given when solutions have been collected, or the first error and what comes after
it. -/
def collected (done : List Binding → Items) (failed : Items) (is : Items) : Items :=
  match collect is with
  | .ok bs => done bs
  | .error e => .error e :: failed

/-- Combines the left items with the right solutions, which are collected for the first left
solution.  An error among them is given in place of this solution, and then there are no right
solutions. -/
def combined (f : List Binding → Binding → Items) (right : Items) : Items → Items
  | [] => []
  | .ok b :: is =>
    collected (fun found => f found b ++ forEach (f found) is) (forEach (f []) is) right
  | .error e :: is => .error e :: combined f right is

/-- Passes on the union of a left solution with a right one if the condition holds, and keeps in
mind that there is one. -/
def attach (condition : Expression) (a : Binding) :
    Bool → Except EvalError Binding → Option (Except EvalError Binding) × Bool
  | matched, .ok c =>
    match (a.merge? c).filter condition.holds with
    | some m => (some (.ok m), true)
    | none => (none, matched)
  | matched, .error e => (some (.error e), matched)

/-- The unions of a left solution with the right ones on which the condition holds, and the left
solution at the end unless there are any. -/
def optionalItems (condition : Expression) (a : Binding) (right : Items) : Items :=
  transduce (attach condition a) (fun matched => if matched then [] else [.ok a]) false right

namespace Solutions

variable {db : Database} {n : Nat}

/-! ### Steps -/

attribute [local simp] step

/-- The machine of solutions on a database in memory. -/
abbrev memoryMachine (db : Database) (n : Nat) : Machine Store (Solutions Cursor) Binding :=
  machine (memory db) n

theorem live_close_solutions {t : Solutions Cursor} {s : Store} (h : Live s) :
  Live (close (memory db) t s)
  := by
  induction t generalizing s with
  | ready bs => apply h
  | scan t =>
    rw [close, Scan.close]
    split
    · apply Reader.live_close_reader h
    · apply h
  | join l r ihl ihr => apply ihr (ihl h)
  | joinCollect l r b found ihl ihr => apply ihr (ihl h)
  | joinFound front l found ih => apply ih h
  | leftJoin l r e ih => apply ih h
  | leftJoinAt l r e b inner matched ihl ih => apply ih (ihl h)
  | filter p e ih => apply ih h
  | union ps => apply h
  | unionAt p ps ih => apply ih h
  | minus l r ihl ihr => apply ihr (ihl h)
  | minusCollect l r b found ihl ihr => apply ihr (ihl h)
  | minusFound l found ih => apply ih h
  | extend p v e ih => apply ih h
  | sort p keys found ih => apply ih h
  | project p vs ih => apply ih h
  | distinct p seen ih => apply ih h
  | reduced p current ih => apply ih h
  | skip k p ih => apply ih h
  | take k p ih => apply ih h

/-- A step is made of a step of an operand. -/
theorem steps_of_steps {t t' u u' : Solutions Cursor} {e e' : Event Binding}
    (ht : (memoryMachine db n).Steps Live t e t')
    (h : ∀ s s', step (memory db) n t s = (e, t', s') → Live s'
      → ∃ s'', step (memory db) n u s = (e', u', s'') ∧ Live s'') :
  (memoryMachine db n).Steps Live u e' u'
  := by
  intro s hs
  obtain ⟨s', hstep, hs'⟩ := ht s hs
  apply h s s' hstep hs'

theorem steps_of_step {t t' u u' : Solutions Cursor} {e e' : Event Binding}
    (ht : (memoryMachine db n).Steps Live t e t')
    (h : ∀ s s', step (memory db) n t s = (e, t', s') → step (memory db) n u s = (e', u', s')) :
  (memoryMachine db n).Steps Live u e' u'
  := steps_of_steps ht fun s s' hstep hs' => ⟨s', h s s' hstep, hs'⟩

/-- The operand is closed after its step. -/
theorem steps_of_close {t t' u u' : Solutions Cursor} {e e' : Event Binding}
    (ht : (memoryMachine db n).Steps Live t e t')
    (h : ∀ s s', step (memory db) n t s = (e, t', s')
      → step (memory db) n u s = (e', u', close (memory db) t' s')) :
  (memoryMachine db n).Steps Live u e' u'
  := steps_of_steps ht fun s s' hstep hs' => ⟨_, h s s' hstep, live_close_solutions hs'⟩

theorem gives_ready (bs : List Binding) :
  (memoryMachine db n).Gives Live (.ready bs) (bs.map .ok)
  := by
  induction bs with
  | nil =>
    have hstep : (memoryMachine db n).Steps Live (.ready []) .finished (.ready []) := by
      intro s hs
      use s, rfl, hs
    apply Gives.finished hstep hstep
  | cons b bs ih =>
    have hstep : (memoryMachine db n).Steps Live (.ready (b :: bs)) (.item (.ok b))
        (.ready bs) := by
      intro s hs
      use s, rfl, hs
    apply Gives.item hstep ih

theorem gives_scan {t : Scan SolutionMap Binding Cursor} {is : Items}
    (h : (Scan.memoryMachine SolutionMap db n).Gives Live t is) :
  (memoryMachine db n).Gives Live (.scan t) is
  := by
  have hsteps : ∀ {t e t'}, (Scan.memoryMachine SolutionMap db n).Steps Live t e t'
      → (memoryMachine db n).Steps Live (.scan t) e (.scan t') := by
    intro t e t' h s hs
    obtain ⟨s', hstep, hs'⟩ := h s hs
    use s'
    simp only [Scan.memoryMachine] at hstep
    simp [machine, hstep, hs']
  induction h with
  | finished hstep hstay => apply Gives.finished (hsteps hstep) (hsteps hstay)
  | quiet hstep _ ih => apply Gives.quiet (hsteps hstep) ih
  | item hstep _ ih => apply Gives.item (hsteps hstep) ih

/-! ### Operators that pass items on -/

/-- The event of an item that is passed on or left out. -/
def eventOf : Option (Except EvalError Binding) → Event Binding
  | some r => .item r
  | none => .quiet

attribute [local simp] eventOf

/-- An operator with a state makes a step of its operand and passes the item on. -/
structure Transforms (db : Database) (n : Nat) {X : Type}
    (C : X → Solutions Cursor → Solutions Cursor)
    (f : X → Except EvalError Binding → Option (Except EvalError Binding) × X) : Prop where
  item : ∀ x p r p' s s', step (memory db) n p s = (.item r, p', s')
    → step (memory db) n (C x p) s = (eventOf (f x r).1, C (f x r).2 p', s')
  quiet : ∀ x p p' s s', step (memory db) n p s = (.quiet, p', s')
    → step (memory db) n (C x p) s = (.quiet, C x p', s')

section

variable {X : Type} {C : X → Solutions Cursor → Solutions Cursor}
  {f : X → Except EvalError Binding → Option (Except EvalError Binding) × X}

theorem Transforms.gives (hC : Transforms db n C f) {last : X → Items}
    (hlast : ∀ x p p', (memoryMachine db n).Steps Live p .finished p'
      → (memoryMachine db n).Steps Live p' .finished p'
      → (memoryMachine db n).Gives Live (C x p) (last x))
    {p : Solutions Cursor} {is : Items} (h : (memoryMachine db n).Gives Live p is) (x : X) :
  (memoryMachine db n).Gives Live (C x p) (transduce f last x is)
  := by
  induction h generalizing x with
  | finished hstep hstay => apply hlast x _ _ hstep hstay
  | @quiet p p' is hstep _ ih =>
    have hnext : (memoryMachine db n).Steps Live (C x p) .quiet (C x p') := by
      apply steps_of_step hstep (hC.quiet x p p')
    apply Gives.quiet hnext (ih x)
  | @item p p' r is hstep _ ih =>
    have hnext : (memoryMachine db n).Steps Live (C x p) (eventOf (f x r).1)
        (C (f x r).2 p') := by
      apply steps_of_step hstep (hC.item x p r p')
    rw [transduce]
    cases hf : (f x r).1 with
    | none =>
      rw [hf] at hnext
      apply Gives.quiet hnext (ih _)
    | some r' =>
      rw [hf] at hnext
      apply Gives.item hnext (ih _)

/-- An operator that ends when its operand ends. -/
theorem Transforms.gives_of_finished (hC : Transforms db n C f)
    (hend : ∀ x p p' s s', step (memory db) n p s = (.finished, p', s')
      → step (memory db) n (C x p) s = (.finished, C x p', s'))
    {p : Solutions Cursor} {is : Items} (h : (memoryMachine db n).Gives Live p is) (x : X) :
  (memoryMachine db n).Gives Live (C x p) (transduce f (fun _ => []) x is)
  := by
  apply hC.gives _ h
  have hfinished : ∀ x p p', (memoryMachine db n).Steps Live p .finished p'
      → (memoryMachine db n).Steps Live (C x p) .finished (C x p') := by
    intro x p p' hstep
    apply steps_of_step hstep (hend x p p')
  intro x p p' hstep hstay
  apply Gives.finished (hfinished x p p' hstep) (hfinished x p' p' hstay)

end

section

variable {p : Solutions Cursor} {is : Items} (h : (memoryMachine db n).Gives Live p is)

include h

/-- An operator that changes solutions or leaves them out. -/
theorem gives_forEach {C : Solutions Cursor → Solutions Cursor} {f : Binding → Option Binding}
    (hC : ∀ p e p' s s', step (memory db) n p s = (e, p', s')
      → step (memory db) n (C p) s = (match e with
        | .item (.ok b) => eventOf ((f b).map .ok)
        | e => e, C p', s')) :
  (memoryMachine db n).Gives Live (C p) (forEach (fun b => ((f b).map Except.ok).toList) is)
  := by
  rw [← transduce_keep]
  apply @Transforms.gives_of_finished db n Unit (fun _ p => C p) _ _ _ _ _ h
  · constructor
    · rintro _ p (_ | b) p' s s' hstep
      · apply hC p _ p' s s' hstep
      · apply hC p _ p' s s' hstep
    · intro _ p p' s s' hstep
      apply hC p _ p' s s' hstep
  · intro _ p p' s s' hstep
    apply hC p _ p' s s' hstep

theorem gives_filter (e : Expression) :
  (memoryMachine db n).Gives Live (.filter p e)
    (forEach (fun b => ((if e.holds b then some b else none).map Except.ok).toList) is)
  := by
  apply @gives_forEach db n p is h (.filter · e)
  rintro p ((_ | b) | _ | _) p' s s' hstep
  · simp [hstep]
  · by_cases hb : e.holds b = true <;> simp [hstep, hb]
  · simp [hstep]
  · simp [hstep]

theorem gives_extend (v : Variable) (e : Expression) :
  (memoryMachine db n).Gives Live (.extend p v e)
    (forEach (fun b => [.ok (extended v e b)]) is)
  := by
  apply @gives_forEach db n p is h (.extend · v e) fun b => some (extended v e b)
  rintro p ((_ | b) | _ | _) p' s s' hstep
  · rw [step, hstep]
  · rw [step, hstep]
    rfl
  · rw [step, hstep]
  · rw [step, hstep]

theorem gives_project (vs : List Variable) :
  (memoryMachine db n).Gives Live (.project p vs) (forEach (fun b => [.ok (b.restrict vs)]) is)
  := by
  apply @gives_forEach db n p is h (.project · vs) fun b => some (b.restrict vs)
  rintro p ((_ | b) | _ | _) p' s s' hstep
  · rw [step, hstep]
  · rw [step, hstep]
    rfl
  · rw [step, hstep]
  · rw [step, hstep]

theorem gives_minusFound (found : List Binding) :
  (memoryMachine db n).Gives Live (.minusFound p found)
    (forEach (fun b => ((if survives found b then some b else none).map Except.ok).toList) is)
  := by
  apply @gives_forEach db n p is h (.minusFound · found)
  rintro p ((_ | b) | _ | _) p' s s' hstep
  · simp [hstep]
  · by_cases hb : survives found b = true <;> simp [hstep, hb]
  · simp [hstep]
  · simp [hstep]

theorem gives_distinct (seen : List Binding) :
  (memoryMachine db n).Gives Live (.distinct p seen) (transduce keepNew (fun _ => []) seen is)
  := by
  apply @Transforms.gives_of_finished db n (List Binding) (fun seen p => .distinct p seen)
    _ _ _ _ _ h
  · constructor
    · rintro seen p (_ | b) p' s s' hstep
      · simp [hstep, keepNew]
      · by_cases hb : b ∈ seen <;> simp [hstep, keepNew, hb]
    · intro _ p p' s s' hstep
      simp [hstep]
  · intro _ p p' s s' hstep
    simp [hstep]

theorem gives_skip (k : Nat) :
  (memoryMachine db n).Gives Live (.skip k p) (transduce skipFirst (fun _ => []) k is)
  := by
  apply @Transforms.gives_of_finished db n Nat (fun k p => .skip k p) _ _ _ _ _ h
  · constructor
    · rintro (_ | k) p r p' s s' hstep <;> simp [hstep, skipFirst]
    · intro _ p p' s s' hstep
      simp [hstep]
  · intro _ p p' s s' hstep
    simp [hstep]

theorem gives_reduced (current : Option Binding) :
  (memoryMachine db n).Gives Live (.reduced p current)
    (transduce holdBack (fun c => (c.map Except.ok).toList) current is)
  := by
  apply @Transforms.gives db n (Option Binding) (fun current p => .reduced p current) _ _ _ _ _ _ h
  · constructor
    · rintro (_ | c) p (_ | b) p' s s' hstep
      · simp [hstep, holdBack]
      · simp [hstep, holdBack]
      · simp [hstep, holdBack]
      · by_cases hb : c = b <;> simp [hstep, holdBack, hb]
    · intro _ p p' s s' hstep
      simp [hstep]
  · intro current p p' hstep hstay
    have hend : ∀ q, (memoryMachine db n).Steps Live q .finished p'
        → (memoryMachine db n).Steps Live (.reduced q none) .finished (.reduced p' none) := by
      intro q hq
      apply steps_of_step hq
      intro s s' h
      simp [h]
    cases current with
    | none => apply Gives.finished (hend p hstep) (hend p' hstay)
    | some c =>
      have hnext : (memoryMachine db n).Steps Live (.reduced p (some c)) (.item (.ok c))
          (.reduced p' none) := by
        apply steps_of_step hstep
        intro s s' h
        simp [h]
      apply Gives.item hnext (Gives.finished (hend p' hstay) (hend p' hstay))

theorem gives_take (k : Nat) :
  (memoryMachine db n).Gives Live (.take k p) (is.take k)
  := by
  have hzero : ∀ p, (memoryMachine db n).Steps Live (.take 0 p) .finished (.take 0 p) := by
    intro p s hs
    use s, rfl, hs
  induction h generalizing k with
  | @finished p p' hstep hstay =>
    rw [List.take_nil]
    cases k with
    | zero => apply Gives.finished (hzero p) (hzero p)
    | succ k =>
      have hend : ∀ q, (memoryMachine db n).Steps Live q .finished p'
          → (memoryMachine db n).Steps Live (.take (k + 1) q) .finished (.take (k + 1) p') := by
        intro q hq
        apply steps_of_step hq
        intro s s' h
        simp [h]
      apply Gives.finished (hend p hstep) (hend p' hstay)
  | @quiet p p' is hstep _ ih =>
    cases k with
    | zero => apply Gives.finished (hzero p) (hzero p)
    | succ k =>
      have hnext : (memoryMachine db n).Steps Live (.take (k + 1) p) .quiet
          (.take (k + 1) p') := by
        apply steps_of_step hstep
        intro s s' h
        simp [h]
      apply Gives.quiet hnext (ih (k + 1))
  | @item p p' r is hstep _ ih =>
    cases k with
    | zero => apply Gives.finished (hzero p) (hzero p)
    | succ k =>
      have hnext : (memoryMachine db n).Steps Live (.take (k + 1) p) (.item r) (.take k p') := by
        apply steps_of_step hstep
        intro s s' h
        simp [h]
      apply Gives.item hnext (ih k)

end

/-! ### Operators that collect solutions -/

/-- An operator collects the solutions of its operand, the last one first, and goes on when all of
them were found, or after the first error. -/
structure Collects (db : Database) (n : Nat)
    (C : List Binding → Solutions Cursor → Solutions Cursor)
    (done : List Binding → Event Binding × Solutions Cursor) (failed : Solutions Cursor) :
    Prop where
  ok : ∀ found p b p' s s', step (memory db) n p s = (.item (.ok b), p', s')
    → step (memory db) n (C found p) s = (.quiet, C (b :: found) p', s')
  error : ∀ found p e p' s s', step (memory db) n p s = (.item (.error e), p', s')
    → step (memory db) n (C found p) s = (.item (.error e), failed, close (memory db) p' s')
  quiet : ∀ found p p' s s', step (memory db) n p s = (.quiet, p', s')
    → step (memory db) n (C found p) s = (.quiet, C found p', s')
  finished : ∀ found p p' s s', step (memory db) n p s = (.finished, p', s')
    → step (memory db) n (C found p) s
      = ((done found.reverse).1, (done found.reverse).2, close (memory db) p' s')

theorem Collects.gives {C : List Binding → Solutions Cursor → Solutions Cursor}
    {done : List Binding → Event Binding × Solutions Cursor} {failed : Solutions Cursor}
    (hC : Collects db n C done failed) {ds : List Binding → Items} {fs : Items}
    (hdone : ∀ bs t, (memoryMachine db n).Steps Live t (done bs).1 (done bs).2
      → (memoryMachine db n).Gives Live t (ds bs))
    (hfailed : (memoryMachine db n).Gives Live failed fs) {p : Solutions Cursor} {is : Items}
    (h : (memoryMachine db n).Gives Live p is) (found : List Binding) :
  (memoryMachine db n).Gives Live (C found p)
    (collected (fun bs => ds (found.reverse ++ bs)) fs is)
  := by
  induction h generalizing found with
  | @finished p p' hstep _ =>
    simp only [collected, collect, List.append_nil]
    apply hdone
    apply steps_of_close hstep
    intro s s' h
    apply hC.finished found p p' s s' h
  | @quiet p p' is hstep _ ih =>
    have hnext : (memoryMachine db n).Steps Live (C found p) .quiet (C found p') := by
      apply steps_of_step hstep (hC.quiet found p p')
    apply Gives.quiet hnext (ih found)
  | @item p p' r is hstep _ ih =>
    cases r with
    | error e =>
      have hnext : (memoryMachine db n).Steps Live (C found p) (.item (.error e)) failed := by
        apply steps_of_close hstep
        intro s s' h
        apply hC.error found p e p' s s' h
      apply Gives.item hnext hfailed
    | ok b =>
      have hnext : (memoryMachine db n).Steps Live (C found p) .quiet (C (b :: found) p') := by
        apply steps_of_step hstep (hC.ok found p b p')
      have hitems : collected (fun bs => ds (found.reverse ++ bs)) fs (.ok b :: is)
          = collected (fun bs => ds ((b :: found).reverse ++ bs)) fs is := by
        rw [collected, collected, collect]
        cases collect is with
        | error e => rfl
        | ok bs => simp [Functor.map, Except.map]
      rw [hitems]
      apply Gives.quiet hnext (ih (b :: found))

theorem gives_sort {p : Solutions Cursor} {is : Items} (h : (memoryMachine db n).Gives Live p is)
    (keys : List SortKey) :
  (memoryMachine db n).Gives Live (.sort p keys [])
    (collected (fun bs => (sortBindings keys bs).map .ok) [] is)
  := by
  apply @Collects.gives db n (fun found p => .sort p keys found)
    (fun bs => (.quiet, .ready (sortBindings keys bs))) (.ready []) _
    (fun bs => (sortBindings keys bs).map .ok) [] _ _ _ _ h []
  · constructor <;> intros <;> simp [*]
  · intro bs t hstep
    apply Gives.quiet hstep (gives_ready _)
  · apply gives_ready []

/-- An operator collects the solutions of its right operand when it has found a left one. -/
structure Combines (db : Database) (n : Nat)
    (J : Solutions Cursor → Solutions Cursor → Solutions Cursor)
    (C : Solutions Cursor → Solutions Cursor → Binding → Solutions Cursor) : Prop where
  ok : ∀ l r b l' s s', step (memory db) n l s = (.item (.ok b), l', s')
    → step (memory db) n (J l r) s = (.quiet, C l' r b, s')
  error : ∀ l r e l' s s', step (memory db) n l s = (.item (.error e), l', s')
    → step (memory db) n (J l r) s = (.item (.error e), J l' r, s')
  quiet : ∀ l r l' s s', step (memory db) n l s = (.quiet, l', s')
    → step (memory db) n (J l r) s = (.quiet, J l' r, s')

theorem Combines.gives {J : Solutions Cursor → Solutions Cursor → Solutions Cursor}
    {C : Solutions Cursor → Solutions Cursor → Binding → Solutions Cursor}
    (hJ : Combines db n J C) {f : List Binding → Binding → Items} {r : Solutions Cursor}
    {rs : Items}
    (hend : ∀ l l', (memoryMachine db n).Steps Live l .finished l'
      → (memoryMachine db n).Steps Live l' .finished l'
      → (memoryMachine db n).Gives Live (J l r) [])
    (hcollect : ∀ l b is, (memoryMachine db n).Gives Live l is
      → (memoryMachine db n).Gives Live (C l r b)
        (collected (fun found => f found b ++ forEach (f found) is) (forEach (f []) is) rs))
    {l : Solutions Cursor} {ls : Items} (h : (memoryMachine db n).Gives Live l ls) :
  (memoryMachine db n).Gives Live (J l r) (combined f rs ls)
  := by
  induction h with
  | finished hstep hstay => apply hend _ _ hstep hstay
  | @quiet l l' is hstep _ ih =>
    have hnext : (memoryMachine db n).Steps Live (J l r) .quiet (J l' r) := by
      apply steps_of_step hstep (hJ.quiet l r l')
    apply Gives.quiet hnext ih
  | @item l l' i is hstep hrest ih =>
    cases i with
    | error e =>
      have hnext : (memoryMachine db n).Steps Live (J l r) (.item (.error e)) (J l' r) := by
        apply steps_of_step hstep (hJ.error l r e l')
      apply Gives.item hnext ih
    | ok b =>
      have hnext : (memoryMachine db n).Steps Live (J l r) .quiet (C l' r b) := by
        apply steps_of_step hstep (hJ.ok l r b l')
      apply Gives.quiet hnext (hcollect l' b is hrest)

/-! ### Joins -/

theorem gives_joinFound {l : Solutions Cursor} {is : Items}
    (h : (memoryMachine db n).Gives Live l is) (front found : List Binding) :
  (memoryMachine db n).Gives Live (.joinFound front l found)
    (front.map .ok ++ forEach (fun b => (joined found b).map .ok) is)
  := by
  -- the solutions that are ready are given before the left operand makes a step
  have hfront : ∀ {l js}, (memoryMachine db n).Gives Live (.joinFound [] l found) js
      → ∀ front : List Binding,
        (memoryMachine db n).Gives Live (.joinFound front l found) (front.map .ok ++ js) := by
    intro l js hl front
    induction front with
    | nil => apply hl
    | cons b front ih =>
      have hnext : (memoryMachine db n).Steps Live (.joinFound (b :: front) l found)
          (.item (.ok b)) (.joinFound front l found) := by
        intro s hs
        use s, rfl, hs
      apply Gives.item hnext ih
  induction h generalizing front with
  | @finished l l' hstep hstay =>
    apply hfront
    have hnext : (memoryMachine db n).Steps Live (.joinFound [] l found) .finished
        (.ready []) := by
      apply steps_of_close hstep
      intro s s' h
      simp [h]
    apply Gives.finished hnext
    intro s hs
    use s, rfl, hs
  | @quiet l l' is hstep _ ih =>
    apply hfront
    have hnext : (memoryMachine db n).Steps Live (.joinFound [] l found) .quiet
        (.joinFound [] l' found) := by
      apply steps_of_step hstep
      intro s s' h
      simp [h]
    apply Gives.quiet hnext (ih [])
  | @item l l' i is hstep _ ih =>
    apply hfront
    cases i with
    | error e =>
      have hnext : (memoryMachine db n).Steps Live (.joinFound [] l found) (.item (.error e))
          (.joinFound [] l' found) := by
        apply steps_of_step hstep
        intro s s' h
        simp [h]
      apply Gives.item hnext (ih [])
    | ok b =>
      have hnext : (memoryMachine db n).Steps Live (.joinFound [] l found) .quiet
          (.joinFound (joined found b) l' found) := by
        apply steps_of_step hstep
        intro s s' h
        simp [h, joined]
      apply Gives.quiet hnext (ih _)

theorem gives_join {l r : Solutions Cursor} {ls rs : Items}
    (hl : (memoryMachine db n).Gives Live l ls) (hr : (memoryMachine db n).Gives Live r rs) :
  (memoryMachine db n).Gives Live (.join l r)
    (combined (fun found b => (joined found b).map .ok) rs ls)
  := by
  apply @Combines.gives db n .join (fun l r b => .joinCollect l r b []) _ _ _ _ _ _ _ _ hl
  · constructor <;> intros <;> simp [*]
  · intro l l' hstep _
    have hnext : (memoryMachine db n).Steps Live (.join l r) .finished (.ready []) := by
      apply steps_of_steps hstep
      intro s s' h hs'
      use close (memory db) r (close (memory db) l' s'), by simp [h]
      apply live_close_solutions (live_close_solutions hs')
    apply Gives.finished hnext
    intro s hs
    use s, rfl, hs
  · intro l b is hl
    apply @Collects.gives db n (fun found r => .joinCollect l r b found)
      (fun bs => (.quiet, .joinFound (joined bs b) l bs)) (.joinFound [] l []) _
      (fun bs => (joined bs b).map Except.ok ++ forEach (fun b => (joined bs b).map Except.ok) is)
      _ _ _ _ _ hr []
    · constructor <;> intros <;> simp [joined, *]
    · intro bs t hstep
      apply Gives.quiet hstep (gives_joinFound hl _ _)
    · apply gives_joinFound hl [] []

theorem gives_minus {l r : Solutions Cursor} {ls rs : Items}
    (hl : (memoryMachine db n).Gives Live l ls) (hr : (memoryMachine db n).Gives Live r rs) :
  (memoryMachine db n).Gives Live (.minus l r)
    (combined (fun found b => ((if survives found b then some b else none).map Except.ok).toList)
      rs ls)
  := by
  apply @Combines.gives db n .minus (fun l r b => .minusCollect l r b []) _ _ _ _ _ _ _ _ hl
  · constructor <;> intros <;> simp [*]
  · intro l l' hstep hstay
    have hend : ∀ q, (memoryMachine db n).Steps Live q .finished l'
        → (memoryMachine db n).Steps Live (.minus q r) .finished (.minus l' r) := by
      intro q hq
      apply steps_of_step hq
      intro s s' h
      simp [h]
    apply Gives.finished (hend l hstep) (hend l' hstay)
  · intro l b is hl
    apply @Collects.gives db n (fun found r => .minusCollect l r b found)
      (fun bs => (if survives bs b then .item (.ok b) else .quiet, .minusFound l bs))
      (.minusFound l []) _
      (fun bs => ((if survives bs b then some b else none).map Except.ok).toList
        ++ forEach (fun b => ((if survives bs b then some b else none).map Except.ok).toList) is)
      _ _ _ _ _ hr []
    · constructor <;> intros <;> simp [*]
    · intro bs t hstep
      by_cases hb : survives bs b = true
      · simp only [hb, if_true] at hstep ⊢
        apply Gives.item hstep (gives_minusFound hl bs)
      · simp only [hb] at hstep ⊢
        apply Gives.quiet hstep (gives_minusFound hl bs)
    · apply gives_minusFound hl []

/-- A left join at a left solution gives the unions of it, and goes on to the next one. -/
theorem gives_leftJoinAt {l inner : Solutions Cursor} {r : Plan} {e : Expression} {is js : Items}
    (hinner : (memoryMachine db n).Gives Live inner is)
    (hl : (memoryMachine db n).Gives Live (.leftJoin l r e) js) (a : Binding) :
  (memoryMachine db n).Gives Live (.leftJoinAt l r e a inner false) (optionalItems e a is ++ js)
  := by
  rw [optionalItems, ← transduce_append]
  apply @Transforms.gives db n Bool (fun matched inner => .leftJoinAt l r e a inner matched)
    _ _ _ _ _ _ hinner
  · constructor
    · rintro matched p (_ | c) p' s s' hstep
      · simp [hstep, attach]
      · cases hm : a.merge? c with
        | none => simp [hstep, attach, hm]
        | some m =>
          by_cases hc : e.holds m = true <;>
            simp [hstep, attach, hm, hc, Option.filter]
    · intro matched p p' s s' hstep
      simp [hstep]
  · intro matched p p' hstep hstay
    have hnext : ∀ q, (memoryMachine db n).Steps Live q .finished p'
        → (memoryMachine db n).Steps Live (.leftJoinAt l r e a q true) .quiet
          (.leftJoin l r e) := by
      intro q hq
      apply steps_of_close hq
      intro s s' h
      simp [h]
    cases matched with
    | true => apply Gives.quiet (hnext p hstep) hl
    | false =>
      have halone : (memoryMachine db n).Steps Live (.leftJoinAt l r e a p false) (.item (.ok a))
          (.leftJoinAt l r e a p' true) := by
        apply steps_of_step hstep
        intro s s' h
        simp [h]
      apply Gives.item halone (Gives.quiet (hnext p' hstay) hl)

theorem gives_leftJoin {l : Solutions Cursor} {r : Plan} {e : Expression} {ls : Items}
    {rs : Binding → Items} (hl : (memoryMachine db n).Gives Live l ls)
    (hr : ∀ a, (memoryMachine db n).Gives Live (ofPlan (r.narrow a)) (rs a)) :
  (memoryMachine db n).Gives Live (.leftJoin l r e)
    (forEach (fun a => optionalItems e a (rs a)) ls)
  := by
  induction hl with
  | @finished l l' hstep _ =>
    have hnext : (memoryMachine db n).Steps Live (.leftJoin l r e) .finished (.ready []) := by
      apply steps_of_close hstep
      intro s s' h
      simp [h]
    apply Gives.finished hnext
    intro s hs
    use s, rfl, hs
  | @quiet l l' is hstep _ ih =>
    have hnext : (memoryMachine db n).Steps Live (.leftJoin l r e) .quiet (.leftJoin l' r e) := by
      apply steps_of_step hstep
      intro s s' h
      simp [h]
    apply Gives.quiet hnext ih
  | @item l l' i is hstep _ ih =>
    cases i with
    | error f =>
      have hnext : (memoryMachine db n).Steps Live (.leftJoin l r e) (.item (.error f))
          (.leftJoin l' r e) := by
        apply steps_of_step hstep
        intro s s' h
        simp [h]
      apply Gives.item hnext ih
    | ok a =>
      have hnext : (memoryMachine db n).Steps Live (.leftJoin l r e) .quiet
          (.leftJoinAt l' r e a (ofPlan (r.narrow a)) false) := by
        apply steps_of_step hstep
        intro s s' h
        simp [h]
      apply Gives.quiet hnext (gives_leftJoinAt (hr a) ih a)

/-! ### Unions and slices -/

theorem gives_unionAt {p : Solutions Cursor} {ps : List Plan} {is js : Items}
    (hp : (memoryMachine db n).Gives Live p is)
    (hps : (memoryMachine db n).Gives Live (.union ps) js) :
  (memoryMachine db n).Gives Live (.unionAt p ps) (is ++ js)
  := by
  induction hp with
  | @finished p p' hstep _ =>
    have hnext : (memoryMachine db n).Steps Live (.unionAt p ps) .quiet (.union ps) := by
      apply steps_of_close hstep
      intro s s' h
      simp [h]
    apply Gives.quiet hnext hps
  | @quiet p p' is hstep _ ih =>
    have hnext : (memoryMachine db n).Steps Live (.unionAt p ps) .quiet (.unionAt p' ps) := by
      apply steps_of_step hstep
      intro s s' h
      simp [h]
    apply Gives.quiet hnext ih
  | @item p p' r is hstep _ ih =>
    have hnext : (memoryMachine db n).Steps Live (.unionAt p ps) (.item r) (.unionAt p' ps) := by
      apply steps_of_step hstep
      intro s s' h
      simp [h]
    apply Gives.item hnext ih

theorem gives_union {ps : List Plan} {iss : List Items}
    (h : List.Forall₂ (fun p is => (memoryMachine db n).Gives Live (ofPlan p) is) ps iss) :
  (memoryMachine db n).Gives Live (.union ps) iss.flatten
  := by
  induction h with
  | nil =>
    have hend : (memoryMachine db n).Steps Live (.union []) .finished (.union []) := by
      intro s hs
      use s, rfl, hs
    apply Gives.finished hend hend
  | @cons p is ps iss hp _ ih =>
    have hnext : (memoryMachine db n).Steps Live (.union (p :: ps)) .quiet
        (.unionAt (ofPlan p) ps) := by
      intro s hs
      use s, rfl, hs
    apply Gives.quiet hnext (gives_unionAt hp ih)

end Solutions

theorem transduce_skipFirst (k : Nat) (is : Items) :
  transduce skipFirst (fun _ => []) k is = is.drop k
  := by
  induction is generalizing k with
  | nil => rw [transduce, List.drop_nil]
  | cons r is ih =>
    cases k with
    | zero => rw [transduce, skipFirst, ih]; rfl
    | succ k => rw [transduce, skipFirst, ih]; rfl

end RelGraph.Engine
