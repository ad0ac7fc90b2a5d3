import RelGraph.Sql.Expr

/-!
# Values of SQL expressions

On a row an expression is a condition or a string, and each of them may be unknown (`NULL`).
Conditions follow the logic of three values: a false conjunct makes a conjunction false and a
true disjunct makes a disjunction true, whatever is unknown.  Operands are looked at from left
to right, and not beyond the one that decides.
-/

namespace RelGraph.Sql

/-- What a query can fail with. -/
inductive DatabaseError where
  | unknownTable (t : Table)
  | unknownColumn (c : Column)
  | invalidRow (t : Table) (expected actual : Nat)
  | typeError (what : String)
  | cursorClosed
  | closeFailed
  | invalidName (e : NameError)

/-- What went wrong. -/
def DatabaseError.message : DatabaseError → String
  | .unknownTable t => "The table " ++ t.render ++ " does not exist"
  | .unknownColumn c => "The column " ++ c.render ++ " does not exist"
  | .invalidRow t expected actual =>
    "The table " ++ t.render ++ " has " ++ toString expected ++ " columns but a row with "
      ++ toString actual ++ " values was given"
  | .typeError what => "Invalid SQL expression: " ++ what
  | .cursorClosed => "The cursor is already closed"
  | .closeFailed => "Failed to close the cursor"
  | .invalidName e => e.message

/-- A text, or nothing where it is `NULL`. -/
abbrev Cell := Option String

/-- The cells of a combination of table rows. -/
abbrev Env := List (Column × Cell)

/-- The cell of a column. -/
def Env.lookup (env : Env) (c : Column) : Except DatabaseError Cell :=
  match List.lookup c env with
  | some v => .ok v
  | none => .error (.unknownColumn c)

/-- The value of an expression; `none` is unknown. -/
inductive Value where
  | truth (v : Option Bool)
  | text (v : Cell)
  deriving DecidableEq

/-- A value that is used as a condition. -/
def Value.toTruth : Value → Except DatabaseError (Option Bool)
  | .truth v => .ok v
  | .text _ => .error (.typeError "a string is used as a condition")

/-- A value that is used as a string. -/
def Value.toText : Value → Except DatabaseError Cell
  | .text v => .ok v
  | .truth _ => .error (.typeError "a condition is used as a string")

/-- Compares two values that may be unknown. -/
def sameIfKnown {α : Type} [DecidableEq α] : Option α → Option α → Option Bool
  | some a, some b => some (a = b)
  | _, _ => none

/-- Compares two values, which have to be of one kind. -/
def Value.same : Value → Value → Except DatabaseError Value
  | .text a, .text b => .ok (.truth (sameIfKnown a b))
  | .truth a, .truth b => .ok (.truth (sameIfKnown a b))
  | _, _ => .error (.typeError "a string is compared to a condition")

namespace Expr

mutual

/-- The value of an expression on the cells of a row. -/
def eval (env : Env) : Expr → Except DatabaseError Value
  | .always => .ok (.truth (some true))
  | .never => .ok (.truth (some false))
  | .column c => do
    let v ← env.lookup c
    return .text v
  | .constant s => .ok (.text (some s))
  | .concat es => do
    let v ← evalConcat env es
    return .text v
  | .and es => do
    let v ← evalAnd env es
    return .truth v
  | .or es => do
    let v ← evalOr env es
    return .truth v
  | .not e => do
    let v ← eval env e
    let b ← v.toTruth
    return .truth (b.map Bool.not)
  | .equal a b => do
    let v ← eval env a
    let w ← eval env b
    v.same w
  | .isNotNull e => do
    let v ← eval env e
    let s ← v.toText
    return .truth (some s.isSome)

/-- The concatenation of some strings, unknown from the first unknown one on. -/
def evalConcat (env : Env) : List Expr → Except DatabaseError Cell
  | [] => .ok (some "")
  | e :: es => do
    let v ← eval env e
    match ← v.toText with
    | none => return none
    | some s =>
      let rest ← evalConcat env es
      return rest.map (s ++ ·)

/-- The conjunction of some conditions, up to the first false one. -/
def evalAnd (env : Env) : List Expr → Except DatabaseError (Option Bool)
  | [] => .ok (some true)
  | e :: es => do
    let v ← eval env e
    match ← v.toTruth with
    | some true => evalAnd env es
    | some false => return some false
    | none =>
      match ← evalAnd env es with
      | some false => return some false
      | _ => return none

/-- The disjunction of some conditions, up to the first true one. -/
def evalOr (env : Env) : List Expr → Except DatabaseError (Option Bool)
  | [] => .ok (some false)
  | e :: es => do
    let v ← eval env e
    match ← v.toTruth with
    | some false => evalOr env es
    | some true => return some true
    | none =>
      match ← evalOr env es with
      | some true => return some true
      | _ => return none

end

end Expr

end RelGraph.Sql
