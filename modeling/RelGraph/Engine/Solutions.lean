import RelGraph.Engine.Plan
import RelGraph.Engine.Reader
import RelGraph.Sparql.Evaluation

/-!
# Solutions of plans

The solutions of a plan are found on demand.  The state of the search follows the plan: joins
are nested loops, whose right solutions are collected once a left one was found, except that
the right plan of a left join is narrowed to each left solution.  Errors are passed on among
the solutions, and the search goes on after them.
-/

namespace RelGraph.Engine

open Rdf Sql Sparql Mapping

/-- The solutions that are still to come. -/
inductive Solutions (κ : Type) where
  /-- Solutions that are known already. -/
  | ready (bs : List Binding)
  /-- The bindings of solution maps. -/
  | scan (t : Scan SolutionMap Binding κ)
  /-- A join before the first left solution. -/
  | join (left right : Solutions κ)
  /-- A join whose right solutions are being collected, the last one first, for the first left
  solution. -/
  | joinCollect (left right : Solutions κ) (b : Binding) (found : List Binding)
  /-- A join whose right solutions are known; `front` are solutions that are ready. -/
  | joinFound (front : List Binding) (left : Solutions κ) (found : List Binding)
  /-- A left join between two left solutions. -/
  | leftJoin (left : Solutions κ) (right : Plan) (condition : Expression)
  /-- A left join at a left solution; `matched` says that nothing is missing for it. -/
  | leftJoinAt (left : Solutions κ) (right : Plan) (condition : Expression) (b : Binding)
      (inner : Solutions κ) (matched : Bool)
  | filter (inner : Solutions κ) (condition : Expression)
  /-- A union between two branches. -/
  | union (rest : List Plan)
  /-- A union in a branch. -/
  | unionAt (front : Solutions κ) (rest : List Plan)
  /-- A difference before the first left solution. -/
  | minus (left right : Solutions κ)
  /-- A difference whose right solutions are being collected, the last one first, for the
  first left solution. -/
  | minusCollect (left right : Solutions κ) (b : Binding) (found : List Binding)
  /-- A difference whose right solutions are known. -/
  | minusFound (left : Solutions κ) (found : List Binding)
  | extend (inner : Solutions κ) (v : Variable) (e : Expression)
  /-- Solutions that are collected, the last one first, to be sorted. -/
  | sort (inner : Solutions κ) (keys : List SortKey) (found : List Binding)
  | project (inner : Solutions κ) (vs : List Variable)
  | distinct (inner : Solutions κ) (seen : List Binding)
  /-- Repeated solutions are given once; `current` is one that has not been given. -/
  | reduced (inner : Solutions κ) (current : Option Binding)
  | skip (n : Nat) (inner : Solutions κ)
  | take (n : Nat) (inner : Solutions κ)

/-! ### Sorting -/

/-- Compares two solutions by a key. -/
def compareBy (k : SortKey) (a b : Binding) : Ordering :=
  let o := Value.orderOptions (k.expression.eval a) (k.expression.eval b)
  if k.descending then o.swap else o

/-- Compares two solutions by some keys, of which the first one that differs decides. -/
def compareByAll : List SortKey → Binding → Binding → Ordering
  | [], _, _ => .eq
  | k :: ks, a, b => (compareBy k a b).then (compareByAll ks a b)

/-- Sorts solutions; those that are equal keep their order. -/
def sortBindings (keys : List SortKey) (bs : List Binding) : List Binding :=
  bs.mergeSort fun a b => (compareByAll keys a b).isLE

/-! ### Differences -/

/-- The solution stays in a difference: none of the others has a variable in common with it and
is compatible with it. -/
def survives (found : List Binding) (b : Binding) : Bool :=
  found.all fun r => !b.overlaps r || !b.compatible r

namespace Solutions

variable {κ σ : Type}


/-- The solutions of a plan. -/
def ofPlan : Plan → Solutions κ
  | .maps ms => .scan (.ofMaps ms)
  | .join l r => .join (ofPlan l) (ofPlan r)
  | .leftJoin l r e => .leftJoin (ofPlan l) r e
  | .filter p e => .filter (ofPlan p) e
  | .union ps => .union ps
  | .minus l r => .minus (ofPlan l) (ofPlan r)
  | .extend p v e => .extend (ofPlan p) v e
  | .values bs => .ready bs
  | .orderBy p keys => .sort (ofPlan p) keys []
  | .project p vs => .project (ofPlan p) vs
  | .distinct p => .distinct (ofPlan p) []
  | .reduced p => .reduced (ofPlan p) none
  | .slice p start length =>
    let skipped := if 0 < start then .skip start (ofPlan p) else ofPlan p
    match length with
    | some n => .take n skipped
    | none => skipped

/-- Closes all the cursors. -/
def close (B : Backend σ κ) : Solutions κ → σ → σ
  | .ready _, s => s
  | .scan t, s => t.close B s
  | .join l r, s => close B r (close B l s)
  | .joinCollect l r _ _, s => close B r (close B l s)
  | .joinFound _ l _, s => close B l s
  | .leftJoin l _ _, s => close B l s
  | .leftJoinAt l _ _ _ inner _, s => close B inner (close B l s)
  | .filter p _, s => close B p s
  | .union _, s => s
  | .unionAt p _, s => close B p s
  | .minus l r, s => close B r (close B l s)
  | .minusCollect l r _ _, s => close B r (close B l s)
  | .minusFound l _, s => close B l s
  | .extend p _ _, s => close B p s
  | .sort p _ _, s => close B p s
  | .project p _, s => close B p s
  | .distinct p _, s => close B p s
  | .reduced p _, s => close B p s
  | .skip _ p, s => close B p s
  | .take _ p, s => close B p s

/-- Makes a step towards the next solution.  Rows are fetched `n` at a time. -/
def step (B : Backend σ κ) (n : Nat) : Solutions κ → σ → Event Binding × Solutions κ × σ
  | .ready [], s => (.finished, .ready [], s)
  | .ready (b :: bs), s => (.item (.ok b), .ready bs, s)
  | .scan t, s =>
    let (e, t', s') := t.step B n s
    (e, .scan t', s')
  | .join l r, s =>
    match step B n l s with
    | (.item (.ok b), l', s') => (.quiet, .joinCollect l' r b [], s')
    | (.item (.error e), l', s') => (.item (.error e), .join l' r, s')
    | (.quiet, l', s') => (.quiet, .join l' r, s')
    | (.finished, l', s') => (.finished, .ready [], close B r (close B l' s'))
  | .joinCollect l r b found, s =>
    match step B n r s with
    | (.item (.ok c), r', s') => (.quiet, .joinCollect l r' b (c :: found), s')
    | (.item (.error e), r', s') => (.item (.error e), .joinFound [] l [], close B r' s')
    | (.quiet, r', s') => (.quiet, .joinCollect l r' b found, s')
    | (.finished, r', s') =>
      let all := found.reverse
      (.quiet, .joinFound (all.filterMap b.merge?) l all, close B r' s')
  | .joinFound (b :: front) l found, s => (.item (.ok b), .joinFound front l found, s)
  | .joinFound [] l found, s =>
    match step B n l s with
    | (.item (.ok b), l', s') => (.quiet, .joinFound (found.filterMap b.merge?) l' found, s')
    | (.item (.error e), l', s') => (.item (.error e), .joinFound [] l' found, s')
    | (.quiet, l', s') => (.quiet, .joinFound [] l' found, s')
    | (.finished, l', s') => (.finished, .ready [], close B l' s')
  | .leftJoin l r e, s =>
    match step B n l s with
    | (.item (.ok b), l', s') =>
      (.quiet, .leftJoinAt l' r e b (ofPlan (r.narrow b)) false, s')
    | (.item (.error f), l', s') => (.item (.error f), .leftJoin l' r e, s')
    | (.quiet, l', s') => (.quiet, .leftJoin l' r e, s')
    | (.finished, l', s') => (.finished, .ready [], close B l' s')
  | .leftJoinAt l r e b inner matched, s =>
    match step B n inner s with
    | (.item (.ok c), inner', s') =>
      match b.merge? c with
      | some merged =>
        if e.holds merged then (.item (.ok merged), .leftJoinAt l r e b inner' true, s')
        else (.quiet, .leftJoinAt l r e b inner' matched, s')
      | none => (.quiet, .leftJoinAt l r e b inner' matched, s')
    | (.item (.error f), inner', s') => (.item (.error f), .leftJoinAt l r e b inner' matched, s')
    | (.quiet, inner', s') => (.quiet, .leftJoinAt l r e b inner' matched, s')
    | (.finished, inner', s') =>
      if matched then (.quiet, .leftJoin l r e, close B inner' s')
      else (.item (.ok b), .leftJoinAt l r e b inner' true, s')
  | .filter p e, s =>
    match step B n p s with
    | (.item (.ok b), p', s') =>
      (if e.holds b then .item (.ok b) else .quiet, .filter p' e, s')
    | (ev, p', s') => (ev, .filter p' e, s')
  | .union [], s => (.finished, .union [], s)
  | .union (p :: ps), s => (.quiet, .unionAt (ofPlan p) ps, s)
  | .unionAt p ps, s =>
    match step B n p s with
    | (.finished, p', s') => (.quiet, .union ps, close B p' s')
    | (ev, p', s') => (ev, .unionAt p' ps, s')
  | .minus l r, s =>
    match step B n l s with
    | (.item (.ok b), l', s') => (.quiet, .minusCollect l' r b [], s')
    | (ev, l', s') => (ev, .minus l' r, s')
  | .minusCollect l r b found, s =>
    match step B n r s with
    | (.item (.ok c), r', s') => (.quiet, .minusCollect l r' b (c :: found), s')
    | (.item (.error e), r', s') => (.item (.error e), .minusFound l [], close B r' s')
    | (.quiet, r', s') => (.quiet, .minusCollect l r' b found, s')
    | (.finished, r', s') =>
      let all := found.reverse
      (if survives all b then .item (.ok b) else .quiet, .minusFound l all, close B r' s')
  | .minusFound l found, s =>
    match step B n l s with
    | (.item (.ok b), l', s') =>
      (if survives found b then .item (.ok b) else .quiet, .minusFound l' found, s')
    | (ev, l', s') => (ev, .minusFound l' found, s')
  | .extend p v e, s =>
    match step B n p s with
    | (.item (.ok b), p', s') =>
      let extended :=
        match e.eval b with
        | some value => b.insert v value.toTerm
        | none => b
      (.item (.ok extended), .extend p' v e, s')
    | (ev, p', s') => (ev, .extend p' v e, s')
  | .sort p keys found, s =>
    match step B n p s with
    | (.item (.ok b), p', s') => (.quiet, .sort p' keys (b :: found), s')
    | (.item (.error e), p', s') => (.item (.error e), .ready [], close B p' s')
    | (.quiet, p', s') => (.quiet, .sort p' keys found, s')
    | (.finished, p', s') => (.quiet, .ready (sortBindings keys found.reverse), close B p' s')
  | .project p vs, s =>
    match step B n p s with
    | (.item (.ok b), p', s') => (.item (.ok (b.restrict vs)), .project p' vs, s')
    | (ev, p', s') => (ev, .project p' vs, s')
  | .distinct p seen, s =>
    match step B n p s with
    | (.item (.ok b), p', s') =>
      if b ∈ seen then (.quiet, .distinct p' seen, s')
      else (.item (.ok b), .distinct p' (b :: seen), s')
    | (ev, p', s') => (ev, .distinct p' seen, s')
  | .reduced p current, s =>
    match step B n p s with
    | (.item (.ok b), p', s') =>
      match current with
      | some c => (if c = b then .quiet else .item (.ok c), .reduced p' (some b), s')
      | none => (.quiet, .reduced p' (some b), s')
    | (.finished, p', s') =>
      match current with
      | some c => (.item (.ok c), .reduced p' none, s')
      | none => (.finished, .reduced p' none, s')
    | (ev, p', s') => (ev, .reduced p' current, s')
  | .skip k p, s =>
    match step B n p s with
    | (.item r, p', s') =>
      match k with
      | 0 => (.item r, .skip 0 p', s')
      | k + 1 => (.quiet, .skip k p', s')
    | (ev, p', s') => (ev, .skip k p', s')
  | .take 0 p, s => (.finished, .take 0 p, s)
  | .take (k + 1) p, s =>
    match step B n p s with
    | (.item r, p', s') => (.item r, .take k p', s')
    | (ev, p', s') => (ev, .take (k + 1) p', s')

/-- The machine of solutions. -/
def machine (B : Backend σ κ) (n : Nat) : Machine σ (Solutions κ) Binding where
  step := step B n
  close := close B

end Solutions

end RelGraph.Engine
