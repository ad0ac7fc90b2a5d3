import RelGraph.Engine.Group
import RelGraph.Engine.Plan
import RelGraph.Sparql.ExpressionText

/-!
# Writing plans

The explanation of a plan: one line for each part of it, indented by its depth, and one line
for each query that is sent.
-/

namespace RelGraph.Engine

open Rdf Sql Sparql Mapping

/-- A line at a depth. -/
def indented (depth : Nat) (text : String) : String :=
  String.ofList (List.replicate (2 * depth) ' ') ++ text

/-- The text of a sort key. -/
def sortKeyText (k : SortKey) : String :=
  callText (if k.descending then "Desc" else "Asc") [k.expression.text]

/-- The text of the query of a group. -/
def groupText (g : Group SolutionMap) : String :=
  g.query.render ++ " (" ++ toString g.members.length ++ " bindings)"

namespace Plan

mutual

/-- The lines of a plan at a depth. -/
def lines (depth : Nat) : Plan → List String
  | .maps ms =>
    indented depth "Relations"
      :: (Group.ofList ms).map fun g => indented (depth + 1) (groupText g)
  | .join l r => indented depth "Join" :: (lines (depth + 1) l ++ lines (depth + 1) r)
  | .leftJoin l r e =>
    indented depth ("LeftJoin " ++ e.text) :: (lines (depth + 1) l ++ lines (depth + 1) r)
  | .filter p e => indented depth ("Filter " ++ e.text) :: lines (depth + 1) p
  | .union ps => indented depth "Union" :: linesOfAll (depth + 1) ps
  | .minus l r => indented depth "Minus" :: (lines (depth + 1) l ++ lines (depth + 1) r)
  | .extend p v e =>
    indented depth ("Extend " ++ v.render ++ " := " ++ e.text) :: lines (depth + 1) p
  | .values bs => [indented depth ("Values (" ++ toString bs.length ++ " rows)")]
  | .orderBy p keys =>
    indented depth ("OrderBy " ++ listText (keys.map sortKeyText)) :: lines (depth + 1) p
  | .project p vs =>
    indented depth ("Project" ++ String.join (vs.map fun v => " " ++ v.render))
      :: lines (depth + 1) p
  | .distinct p => indented depth "Distinct" :: lines (depth + 1) p
  | .reduced p => indented depth "Reduced" :: lines (depth + 1) p
  | .slice p start length =>
    let upTo :=
      match length with
      | some n => " length " ++ toString n
      | none => ""
    indented depth ("Slice from " ++ toString start ++ upTo) :: lines (depth + 1) p

/-- The lines of some plans at a depth. -/
def linesOfAll (depth : Nat) : List Plan → List String
  | [] => []
  | p :: ps => lines depth p ++ linesOfAll depth ps

end

end Plan

end RelGraph.Engine
