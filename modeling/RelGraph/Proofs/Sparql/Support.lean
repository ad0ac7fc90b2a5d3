import Mathlib.Tactic.Common
import RelGraph.Sparql.Support

/-!
# Which patterns are refused

A pattern of a query is converted exactly when nothing in it is unsupported, at any depth; if
something is, then the conversion fails and names something unsupported that is in the pattern
(`Algebra.toPattern_ok_iff`).

What occurs in a pattern is defined by the parts right below each expression and each pattern
(`Part.children`).  A conversion goes through these parts one after the other; what it tells about
the first ones and what it tells about the next ones are put together by `Part.Checks.bind`.
-/

namespace RelGraph.Sparql.Algebra

/-! ### Parts of queries -/

/-- The expression of a sort key. -/
def SortKey.expr : SortKey → Expr
  | .ascending e => e
  | .descending e => e

/-- An expression or a pattern in a query. -/
inductive Part where
  | expr (e : Expr)
  | pattern (p : Pattern)

namespace Part

/-- The expressions and patterns right below an expression. -/
def childrenOfExpr : Expr → List Part
  | .iri _ | .literal _ | .variable _ | .bound _ => []
  | .or a b | .and a b | .equal a b | .sameTerm a b | .compare _ a b | .arithmetic _ a b =>
    [.expr a, .expr b]
  | .member e es => .expr e :: es.map .expr
  | .plus e | .minus e | .not e => [.expr e]
  | .hasSolution p => [.pattern p]
  | .choose a b c => [.expr a, .expr b, .expr c]
  | .coalesce es | .call _ es => es.map .expr

/-- The expressions and patterns right below a pattern. -/
def childrenOfPattern : Pattern → List Part
  | .bgp _ | .values _ _ | .path => []
  | .join l r | .union l r | .minus l r => [.pattern l, .pattern r]
  | .leftJoin l r e => .pattern l :: .pattern r :: e.toList.map .expr
  | .filter e p => [.expr e, .pattern p]
  | .extend p _ e => [.pattern p, .expr e]
  | .orderBy p keys => .pattern p :: keys.map fun k => .expr k.expr
  | .project p _ | .distinct p | .reduced p | .slice p _ _ | .group p | .graph p | .service p =>
    [.pattern p]

/-- The parts right below a part. -/
def children : Part → List Part
  | .expr e => childrenOfExpr e
  | .pattern p => childrenOfPattern p

/-- The first part occurs in the second one, at any depth. -/
inductive Within (x : Part) : Part → Prop where
  | self : Within x x
  | inside {y z : Part} (h : z ∈ y.children) (hx : Within x z) : Within x y

/-- What is unsupported about a part, apart from what is below it: paths, aggregations, named
graphs, services, tests for solutions, and functions that can not be called. -/
def unsupported? : Part → Option Unsupported
  | .pattern .path => some .path
  | .pattern (.group _) => some .aggregation
  | .pattern (.graph _) => some .graph
  | .pattern (.service _) => some .service
  | .expr (.hasSolution _) => some .hasSolution
  | .expr (.call (.builtin name) _) => some (.function name)
  | .expr (.call (.custom i) _) => some (.function i.render)
  | _ => none

/-! ### What a conversion tells -/

variable {α β : Type}

/-- What the outcome of a conversion tells about some parts: if it is a success then nothing in
them is unsupported, and if it is a failure then something in them is, which it names. -/
def Checks (xs : List Part) : Except Unsupported α → Prop
  | .ok _ => ∀ x ∈ xs, ∀ y, Within y x → y.unsupported? = none
  | .error u => ∃ x ∈ xs, ∃ y, Within y x ∧ y.unsupported? = some u

theorem checks_nil (a : α) :
  Checks [] (.ok a)
  := by
  rintro _ ⟨⟩

/-- After some parts were converted the next ones are. -/
theorem Checks.bind {xs ys : List Part} {r : Except Unsupported α}
    {f : α → Except Unsupported β} (h : Checks xs r) (hf : ∀ a, Checks ys (f a)) :
  Checks (xs ++ ys) (r >>= f)
  := by
  cases r with
  | error u =>
    obtain ⟨x, hx, hu⟩ := h
    exact ⟨x, List.mem_append_left ys hx, hu⟩
  | ok a =>
    have hys := hf a
    change Checks (xs ++ ys) (f a)
    cases hfa : f a with
    | error u =>
      rw [hfa] at hys
      obtain ⟨y, hy, hu⟩ := hys
      exact ⟨y, List.mem_append_right xs hy, hu⟩
    | ok b =>
      rw [hfa] at hys
      intro x hx
      obtain hx | hx := List.mem_append.1 hx
      · apply h x hx
      · apply hys x hx

/-- The last step of a conversion only puts the converted parts together. -/
theorem Checks.map {xs : List Part} {r : Except Unsupported α} (h : Checks xs r) (f : α → β) :
  Checks xs (r >>= fun a => pure (f a))
  := by
  rw [← List.append_nil xs]
  apply h.bind
  intro a
  apply checks_nil

theorem Checks.map₂ {xs ys : List Part} {r : Except Unsupported α} {s : Except Unsupported β}
    (hr : Checks xs r) (hs : Checks ys s) {γ : Type} (f : α → β → γ) :
  Checks (xs ++ ys) (do let a ← r; let b ← s; pure (f a b))
  := by
  apply hr.bind
  intro a
  apply hs.map

/-- A part that is not unsupported itself is converted by converting what is below it. -/
theorem checks_of_children {x : Part} (hx : x.unsupported? = none) {r : Except Unsupported α}
    (h : Checks x.children r) :
  Checks [x] r
  := by
  cases r with
  | error u =>
    obtain ⟨z, hz, y, hy, hu⟩ := h
    exact ⟨x, List.mem_singleton_self x, y, .inside hz hy, hu⟩
  | ok a =>
    intro x' hx' y hy
    obtain rfl := List.mem_singleton.1 hx'
    cases hy with
    | self => apply hx
    | inside hz hy => apply h _ hz y hy

/-- An unsupported part is refused, whatever is below it. -/
theorem checks_of_unsupported {x : Part} {u : Unsupported} (hx : x.unsupported? = some u) :
  Checks [x] (.error u : Except Unsupported α)
  := ⟨x, List.mem_singleton_self x, x, .self, hx⟩

end Part

open Part

/-! ### Expressions -/

mutual

/-- The conversion of an expression tells whether something in it is unsupported. -/
theorem checks_toExpression : ∀ e : Expr, Checks [.expr e] e.toExpression
  | .iri _ => checks_of_children rfl (checks_nil _)
  | .literal _ => checks_of_children rfl (checks_nil _)
  | .variable _ => checks_of_children rfl (checks_nil _)
  | .bound _ => checks_of_children rfl (checks_nil _)
  | .or a b => checks_of_children rfl ((checks_toExpression a).map₂ (checks_toExpression b) _)
  | .and a b => checks_of_children rfl ((checks_toExpression a).map₂ (checks_toExpression b) _)
  | .equal a b => checks_of_children rfl ((checks_toExpression a).map₂ (checks_toExpression b) _)
  | .sameTerm a b =>
    checks_of_children rfl ((checks_toExpression a).map₂ (checks_toExpression b) _)
  | .compare _ a b =>
    checks_of_children rfl ((checks_toExpression a).map₂ (checks_toExpression b) _)
  | .arithmetic _ a b =>
    checks_of_children rfl ((checks_toExpression a).map₂ (checks_toExpression b) _)
  | .member e es =>
    checks_of_children rfl ((checks_toExpression e).map₂ (checks_toExpressions es) _)
  | .plus e => checks_of_children rfl ((checks_toExpression e).map _)
  | .minus e => checks_of_children rfl ((checks_toExpression e).map _)
  | .not e => checks_of_children rfl ((checks_toExpression e).map _)
  | .hasSolution _ => checks_of_unsupported rfl
  | .choose a b c => by
    apply checks_of_children rfl
    apply (checks_toExpression a).bind
    intro x
    apply (checks_toExpression b).map₂ (checks_toExpression c)
  | .coalesce es => checks_of_children rfl ((checks_toExpressions es).map _)
  | .call (.known _) es => checks_of_children rfl ((checks_toExpressions es).map _)
  | .call (.builtin _) _ => checks_of_unsupported rfl
  | .call (.custom _) _ => checks_of_unsupported rfl

theorem checks_toExpressions : ∀ es : List Expr, Checks (es.map .expr) (toExpressions es)
  | [] => checks_nil _
  | e :: es => (checks_toExpression e).map₂ (checks_toExpressions es) List.cons

end

/-! ### Patterns -/

theorem checks_toSortKey (k : SortKey) :
  Checks [.expr k.expr] k.toSortKey
  := by
  cases k with
  | ascending e => apply (checks_toExpression e).map
  | descending e => apply (checks_toExpression e).map

theorem checks_toSortKeys (keys : List SortKey) :
  Checks (keys.map fun k => .expr k.expr) (keys.mapM SortKey.toSortKey)
  := by
  induction keys with
  | nil => apply checks_nil
  | cons k keys ih =>
    rw [List.mapM_cons]
    apply (checks_toSortKey k).map₂ ih

theorem checks_conditionOf (e : Option Expr) :
  Checks (e.toList.map .expr) (conditionOf e)
  := by
  cases e with
  | none => apply checks_nil
  | some e => apply checks_toExpression e

/-- The conversion of a pattern tells whether something in it is unsupported. -/
theorem checks_toPattern : ∀ p : Pattern, Checks [.pattern p] p.toPattern
  | .bgp _ => checks_of_children rfl (checks_nil _)
  | .join l r => checks_of_children rfl ((checks_toPattern l).map₂ (checks_toPattern r) _)
  | .leftJoin l r e => by
    apply checks_of_children rfl
    apply (checks_toPattern l).bind
    intro x
    apply (checks_toPattern r).map₂ (checks_conditionOf e)
  | .filter e p => checks_of_children rfl ((checks_toExpression e).map₂ (checks_toPattern p) _)
  | .union l r => checks_of_children rfl ((checks_toPattern l).map₂ (checks_toPattern r) _)
  | .minus l r => checks_of_children rfl ((checks_toPattern l).map₂ (checks_toPattern r) _)
  | .extend p _ e => checks_of_children rfl ((checks_toPattern p).map₂ (checks_toExpression e) _)
  | .values _ _ => checks_of_children rfl (checks_nil _)
  | .orderBy p keys =>
    checks_of_children rfl ((checks_toPattern p).map₂ (checks_toSortKeys keys) _)
  | .project p _ => checks_of_children rfl ((checks_toPattern p).map _)
  | .distinct p => checks_of_children rfl ((checks_toPattern p).map _)
  | .reduced p => checks_of_children rfl ((checks_toPattern p).map _)
  | .slice p _ _ => checks_of_children rfl ((checks_toPattern p).map _)
  | .path => checks_of_unsupported rfl
  | .group _ => checks_of_unsupported rfl
  | .graph _ => checks_of_unsupported rfl
  | .service _ => checks_of_unsupported rfl

/-- A pattern is converted exactly when nothing unsupported occurs in it.  If something does, then
it is refused for something unsupported that occurs in it. -/
theorem toPattern_ok_iff (p : Pattern) :
  ((∃ q, p.toPattern = .ok q) ↔ ∀ x, Within x (.pattern p) → x.unsupported? = none)
    ∧ ((∃ x, Within x (.pattern p) ∧ x.unsupported? ≠ none)
      → ∃ u x, p.toPattern = .error u ∧ Within x (.pattern p) ∧ x.unsupported? = some u)
  := by
  have h := checks_toPattern p
  cases hp : p.toPattern with
  | ok q =>
    rw [hp] at h
    have hall : ∀ x, Within x (.pattern p) → x.unsupported? = none := by
      apply h _ (List.mem_singleton_self _)
    refine ⟨iff_of_true ⟨q, rfl⟩ hall, ?_⟩
    rintro ⟨x, hx, hu⟩
    apply absurd (hall x hx) hu
  | error u =>
    rw [hp] at h
    obtain ⟨y, hy, x, hx, hu⟩ := h
    obtain rfl := List.mem_singleton.1 hy
    constructor
    · apply iff_of_false
      · rintro ⟨q, ⟨⟩⟩
      · intro hall
        rw [hall x hx] at hu
        cases hu
    · intro _
      use u, x, rfl

/-- A sub-query with an optional part, whose condition is a membership test.  One of the members
is the call of a function that can not be called. -/
def membersWithCall : Pattern :=
  .distinct (.project (.leftJoin (.bgp []) (.bgp [])
    (some (.member (.variable ⟨"x"⟩) [.iri ⟨"ex:a"⟩, .call (.builtin "UUID") []]))) [⟨"x"⟩])

theorem toPattern_ok_iff_membersWithCall :
  (∃ x, Within x (.pattern membersWithCall) ∧ x.unsupported? ≠ none)
    ∧ ∃ u x, membersWithCall.toPattern = .error u ∧ Within x (.pattern membersWithCall)
      ∧ x.unsupported? = some u
  := by
  have hcall : Within (.expr (.call (.builtin "UUID") [])) (.pattern membersWithCall) := by
    -- the projection, the optional part, its condition, the second member
    apply Within.inside (.head _)
    apply Within.inside (.head _)
    apply Within.inside (.tail _ (.tail _ (.head _)))
    apply Within.inside (.tail _ (.tail _ (.head _)))
    apply Within.self
  have hunsupported : ∃ x, Within x (.pattern membersWithCall) ∧ x.unsupported? ≠ none :=
    ⟨_, hcall, by simp [unsupported?]⟩
  use hunsupported
  apply (toPattern_ok_iff membersWithCall).2 hunsupported

end RelGraph.Sparql.Algebra
