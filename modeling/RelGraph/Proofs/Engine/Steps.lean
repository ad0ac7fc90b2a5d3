import Mathlib.Tactic.Common
import RelGraph.Engine.Solutions

/-!
# Steps of solutions

Most states make a step by a step of one of their operands, to which they react: they pass
something on, change, and close operands that are not needed any more.  How they react depends
neither on the database nor on its store.
-/

namespace RelGraph.Engine.Solutions

open Rdf Sql Sparql Mapping

variable {κ σ : Type} {B : Backend σ κ} {n : Nat}

/-- The operand that makes the next step. -/
def active? : Solutions κ → Option (Solutions κ)
  | .join l _ => some l
  | .joinCollect _ r _ _ => some r
  | .joinFound [] l _ => some l
  | .leftJoin l _ _ => some l
  | .leftJoinAt _ _ _ _ inner _ => some inner
  | .filter p _ => some p
  | .unionAt p _ => some p
  | .minus l _ => some l
  | .minusCollect _ r _ _ => some r
  | .minusFound l _ => some l
  | .extend p _ _ => some p
  | .sort p _ _ => some p
  | .project p _ => some p
  | .distinct p _ => some p
  | .reduced p _ => some p
  | .skip _ p => some p
  | .take (_ + 1) p => some p
  | .ready _ | .scan _ | .joinFound (_ :: _) _ _ | .union _ | .take 0 _ => none

/-- The reaction of a state to the event of its active operand, which has become another one: an
event, the next state, and the operands that are closed. -/
def react : Solutions κ → Event Binding → Solutions κ
    → Event Binding × Solutions κ × List (Solutions κ)
  | .join _ r, .item (.ok b), p => (.quiet, .joinCollect p r b [], [])
  | .join _ r, .item (.error e), p => (.item (.error e), .join p r, [])
  | .join _ r, .quiet, p => (.quiet, .join p r, [])
  | .join _ r, .finished, p => (.finished, .ready [], [p, r])
  | .joinCollect l _ b found, .item (.ok c), p => (.quiet, .joinCollect l p b (c :: found), [])
  | .joinCollect l _ _ _, .item (.error e), p => (.item (.error e), .joinFound [] l [], [p])
  | .joinCollect l _ b found, .quiet, p => (.quiet, .joinCollect l p b found, [])
  | .joinCollect l _ b found, .finished, p =>
    (.quiet, .joinFound (found.reverse.filterMap b.merge?) l found.reverse, [p])
  | .joinFound _ _ found, .item (.ok b), p =>
    (.quiet, .joinFound (found.filterMap b.merge?) p found, [])
  | .joinFound _ _ found, .item (.error e), p => (.item (.error e), .joinFound [] p found, [])
  | .joinFound _ _ found, .quiet, p => (.quiet, .joinFound [] p found, [])
  | .joinFound _ _ _, .finished, p => (.finished, .ready [], [p])
  | .leftJoin _ r e, .item (.ok b), p =>
    (.quiet, .leftJoinAt p r e b (ofPlan (r.narrow b)) false, [])
  | .leftJoin _ r e, .item (.error f), p => (.item (.error f), .leftJoin p r e, [])
  | .leftJoin _ r e, .quiet, p => (.quiet, .leftJoin p r e, [])
  | .leftJoin _ _ _, .finished, p => (.finished, .ready [], [p])
  | .leftJoinAt l r e b _ matched, .item (.ok c), p =>
    match (b.merge? c).filter e.holds with
    | some merged => (.item (.ok merged), .leftJoinAt l r e b p true, [])
    | none => (.quiet, .leftJoinAt l r e b p matched, [])
  | .leftJoinAt l r e b _ matched, .item (.error f), p =>
    (.item (.error f), .leftJoinAt l r e b p matched, [])
  | .leftJoinAt l r e b _ matched, .quiet, p => (.quiet, .leftJoinAt l r e b p matched, [])
  | .leftJoinAt l r e b _ matched, .finished, p =>
    if matched then (.quiet, .leftJoin l r e, [p])
    else (.item (.ok b), .leftJoinAt l r e b p true, [])
  | .filter _ e, .item (.ok b), p => (if e.holds b then .item (.ok b) else .quiet, .filter p e, [])
  | .filter _ e, ev, p => (ev, .filter p e, [])
  | .unionAt _ ps, .finished, p => (.quiet, .union ps, [p])
  | .unionAt _ ps, ev, p => (ev, .unionAt p ps, [])
  | .minus _ r, .item (.ok b), p => (.quiet, .minusCollect p r b [], [])
  | .minus _ r, ev, p => (ev, .minus p r, [])
  | .minusCollect l _ b found, .item (.ok c), p => (.quiet, .minusCollect l p b (c :: found), [])
  | .minusCollect l _ _ _, .item (.error e), p => (.item (.error e), .minusFound l [], [p])
  | .minusCollect l _ b found, .quiet, p => (.quiet, .minusCollect l p b found, [])
  | .minusCollect l _ b found, .finished, p =>
    (if survives found.reverse b then .item (.ok b) else .quiet, .minusFound l found.reverse, [p])
  | .minusFound _ found, .item (.ok b), p =>
    (if survives found b then .item (.ok b) else .quiet, .minusFound p found, [])
  | .minusFound _ found, ev, p => (ev, .minusFound p found, [])
  | .extend _ v e, .item (.ok b), p =>
    (.item (.ok (match e.eval b with
      | some value => b.insert v value.toTerm
      | none => b)), .extend p v e, [])
  | .extend _ v e, ev, p => (ev, .extend p v e, [])
  | .sort _ keys found, .item (.ok b), p => (.quiet, .sort p keys (b :: found), [])
  | .sort _ _ _, .item (.error e), p => (.item (.error e), .ready [], [p])
  | .sort _ keys found, .quiet, p => (.quiet, .sort p keys found, [])
  | .sort _ keys found, .finished, p => (.quiet, .ready (sortBindings keys found.reverse), [p])
  | .project _ vs, .item (.ok b), p => (.item (.ok (b.restrict vs)), .project p vs, [])
  | .project _ vs, ev, p => (ev, .project p vs, [])
  | .distinct _ seen, .item (.ok b), p =>
    if b ∈ seen then (.quiet, .distinct p seen, []) else (.item (.ok b), .distinct p (b :: seen), [])
  | .distinct _ seen, ev, p => (ev, .distinct p seen, [])
  | .reduced _ (some c), .item (.ok b), p =>
    (if c = b then .quiet else .item (.ok c), .reduced p (some b), [])
  | .reduced _ none, .item (.ok b), p => (.quiet, .reduced p (some b), [])
  | .reduced _ (some c), .finished, p => (.item (.ok c), .reduced p none, [])
  | .reduced _ current, ev, p => (ev, .reduced p current, [])
  | .skip (k + 1) _, .item _, p => (.quiet, .skip k p, [])
  | .skip k _, ev, p => (ev, .skip k p, [])
  | .take (k + 1) _, .item r, p => (.item r, .take k p, [])
  | .take k _, ev, p => (ev, .take k p, [])
  | t, ev, _ => (ev, t, [])

/-- Closes some operands. -/
def closeAll (B : Backend σ κ) (ts : List (Solutions κ)) (s : σ) : σ :=
  ts.foldl (fun s t => close B t s) s

/-- A state with an active operand reacts to a step of the operand. -/
theorem step_of_active? {t p : Solutions κ} (h : t.active? = some p) (s : σ) :
  step B n t s
    = ((t.react (step B n p s).1 (step B n p s).2.1).1,
        (t.react (step B n p s).1 (step B n p s).2.1).2.1,
        closeAll B (t.react (step B n p s).1 (step B n p s).2.1).2.2 (step B n p s).2.2)
  := by
  generalize hx : step B n p s = x
  cases t with
  | ready bs => cases h
  | scan t => cases h
  | union ps => cases h
  | joinFound front l found =>
    cases front with
    | cons b front => cases h
    | nil =>
      cases h
      rw [step, hx]
      obtain ⟨(e | b) | _ | _, p', s'⟩ := x <;> rfl
  | take k p =>
    cases k with
    | zero => cases h
    | succ k =>
      cases h
      rw [step, hx]
      obtain ⟨(e | b) | _ | _, p', s'⟩ := x <;> rfl
  | leftJoinAt l r e b inner matched =>
    cases h
    rw [step, hx]
    obtain ⟨(f | c) | _ | _, p', s'⟩ := x
    · rfl
    · cases hmerge : b.merge? c with
      | none => simp [react, hmerge, closeAll]
      | some merged => by_cases he : e.holds merged = true <;>
        simp [react, hmerge, he, closeAll, Option.filter]
    · rfl
    · cases matched <;> rfl
  | distinct p seen =>
    cases h
    rw [step, hx]
    obtain ⟨(e | b) | _ | _, p', s'⟩ := x
    · rfl
    · by_cases hb : b ∈ seen <;> simp [react, hb, closeAll]
    · rfl
    · rfl
  | reduced p current =>
    cases h
    rw [step, hx]
    obtain ⟨(e | b) | _ | _, p', s'⟩ := x <;> cases current <;> rfl
  | skip k p =>
    cases h
    rw [step, hx]
    obtain ⟨(e | b) | _ | _, p', s'⟩ := x <;> cases k <;> rfl
  | _ =>
    cases h
    rw [step, hx]
    obtain ⟨(e | b) | _ | _, p', s'⟩ := x <;> rfl

theorem sizeOf_lt_of_active? {t p : Solutions κ} (h : t.active? = some p) :
  sizeOf p < sizeOf t
  := by
  rw [active?.eq_def] at h
  split at h <;> cases h <;> simp <;> omega

/-- Induction along the active operands.  A state without one scans, or its step does not depend on
the database. -/
theorem step_induction {motive : Solutions κ → Prop}
    (active : ∀ t p, t.active? = some p → motive p → motive t)
    (scan : ∀ t, motive (.scan t))
    (ready_nil : motive (.ready []))
    (ready_cons : ∀ b bs, motive (.ready (b :: bs)))
    (joinFound : ∀ b front l found, motive (.joinFound (b :: front) l found))
    (union_nil : motive (.union []))
    (union_cons : ∀ p ps, motive (.union (p :: ps)))
    (take_zero : ∀ p, motive (.take 0 p)) (t : Solutions κ) :
  motive t
  := by
  induction hsize : sizeOf t using Nat.strongRecOn generalizing t with
  | ind k ih =>
    cases hactive : t.active? with
    | some p =>
      apply active t p hactive
      apply ih (sizeOf p) _ p rfl
      rw [← hsize]
      apply sizeOf_lt_of_active? hactive
    | none =>
      cases t with
      | scan t => apply scan
      | ready bs =>
        cases bs with
        | nil => apply ready_nil
        | cons b bs => apply ready_cons
      | joinFound front l found =>
        cases front with
        | nil => cases hactive
        | cons b front => apply joinFound
      | union ps =>
        cases ps with
        | nil => apply union_nil
        | cons p ps => apply union_cons
      | take k p =>
        cases k with
        | zero => apply take_zero
        | succ k => cases hactive
      | _ => cases hactive

end RelGraph.Engine.Solutions
