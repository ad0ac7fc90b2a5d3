import RelGraph.Order.Canonical
import RelGraph.Sql.Name

/-!
# SQL expressions

Conditions and strings over the columns of a row.  `andAll`, `orAll`, `notOf`, `equalOf` and
`concatOf` build expressions and simplify them on the way: constants are absorbed, nested
conjunctions and disjunctions are flattened, and operands whose order does not matter stand in
increasing order.  The order of expressions is the one of their spellings: by form, then by
operands from left to right.
-/

namespace RelGraph.Sql

/-- An SQL expression. -/
inductive Expr where
  /-- The true condition. -/
  | always
  /-- The false condition. -/
  | never
  | column (c : Column)
  | constant (s : String)
  | concat (parts : List Expr)
  | and (operands : List Expr)
  | or (operands : List Expr)
  | not (e : Expr)
  | equal (left right : Expr)
  | isNotNull (e : Expr)
  deriving Inhabited

namespace Expr

/-! ### Spelling -/

mutual

/-- The words of an expression: its form, then its operands. -/
def spelling : Expr → List String
  | .always => ["0"]
  | .never => ["1"]
  | .column c => "2" :: Spelled.words c
  | .constant s => ["3", s]
  | .concat es => "4" :: spellings es
  | .and es => "5" :: spellings es
  | .or es => "6" :: spellings es
  | .not e => "7" :: spelling e
  | .equal a b => "8" :: (spelling a ++ spelling b)
  | .isNotNull e => "9" :: spelling e

/-- The words of a list of expressions. -/
def spellings : List Expr → List String
  | [] => ["0"]
  | e :: es => "1" :: (spelling e ++ spellings es)

end

mutual

theorem spelling_append_inj : ∀ (a b : Expr) {r s : List String},
    spelling a ++ r = spelling b ++ s → a = b ∧ r = s
  | .always, b, _, _, h => by
    cases b <;> simp [spelling] at h ⊢
    exact h
  | .never, b, _, _, h => by
    cases b <;> simp [spelling] at h ⊢
    exact h
  | .column c, b, _, _, h => by
    cases b <;> simp [spelling] at h ⊢
    exact Spelled.words_append_inj h
  | .constant c, b, _, _, h => by
    cases b <;> simp [spelling] at h ⊢
    exact h
  | .concat es, b, _, _, h => by
    cases b <;> simp [spelling] at h ⊢
    exact spellings_append_inj es _ h
  | .and es, b, _, _, h => by
    cases b <;> simp [spelling] at h ⊢
    exact spellings_append_inj es _ h
  | .or es, b, _, _, h => by
    cases b <;> simp [spelling] at h ⊢
    exact spellings_append_inj es _ h
  | .not e, b, _, _, h => by
    cases b <;> simp [spelling] at h ⊢
    exact spelling_append_inj e _ h
  | .equal e₁ e₂, b, _, _, h => by
    cases b <;> simp [spelling] at h ⊢
    obtain ⟨h₁, h⟩ := spelling_append_inj e₁ _ h
    obtain ⟨h₂, h⟩ := spelling_append_inj e₂ _ h
    exact ⟨⟨h₁, h₂⟩, h⟩
  | .isNotNull e, b, _, _, h => by
    cases b <;> simp [spelling] at h ⊢
    exact spelling_append_inj e _ h

theorem spellings_append_inj : ∀ (as bs : List Expr) {r s : List String},
    spellings as ++ r = spellings bs ++ s → as = bs ∧ r = s
  | [], bs, _, _, h => by
    cases bs <;> simp [spellings] at h ⊢
    exact h
  | a :: as, bs, _, _, h => by
    cases bs <;> simp [spellings] at h ⊢
    obtain ⟨h₁, h⟩ := spelling_append_inj a _ h
    obtain ⟨h₂, h⟩ := spellings_append_inj as _ h
    exact ⟨⟨h₁, h₂⟩, h⟩

end

instance : Spelled Expr where
  words := spelling
  words_append_inj h := spelling_append_inj _ _ h

instance : DecidableEq Expr := Spelled.decEq

/-! ### Simplifying constructors -/

/-- The condition that always or never holds. -/
def ofBool (b : Bool) : Expr :=
  if b then .always else .never

/-- The operands of a conjunction: no true ones, and those of nested conjunctions in place of
these. -/
def conjuncts : List Expr → List Expr
  | [] => []
  | .always :: es => conjuncts es
  | .and inner :: es => inner ++ conjuncts es
  | e :: es => e :: conjuncts es

/-- The operands of a disjunction: no false ones, and those of nested disjunctions in place of
these. -/
def disjuncts : List Expr → List Expr
  | [] => []
  | .never :: es => disjuncts es
  | .or inner :: es => inner ++ disjuncts es
  | e :: es => e :: disjuncts es

/-- The conjunction of some conditions. -/
def andAll (es : List Expr) : Expr :=
  if Expr.never ∈ es then .never
  else
    match canonical (conjuncts es) with
    | [] => .always
    | [e] => e
    | operands => .and operands

/-- The disjunction of some conditions. -/
def orAll (es : List Expr) : Expr :=
  if Expr.always ∈ es then .always
  else
    match canonical (disjuncts es) with
    | [] => .never
    | [e] => e
    | operands => .or operands

/-- The negation of a condition. -/
def notOf : Expr → Expr
  | .always => .never
  | .never => .always
  | .not e => e
  | e => .not e

/-- The comparison of two expressions: decided for two constants and for an expression with
itself, and otherwise with the smaller one on the left. -/
def equalOf (a b : Expr) : Expr :=
  match a, b with
  | .constant s, .constant t => ofBool (s = t)
  | a, b =>
    if a = b then .always
    else if Spelled.le a b then .equal a b
    else .equal b a

/-- The comparison of two columns. -/
def columnsEqual (a b : Column) : Expr :=
  equalOf (.column a) (.column b)

/-- The comparison of a column with a text. -/
def columnIs (c : Column) (value : String) : Expr :=
  equalOf (.column c) (.constant value)

/-- The concatenation of some strings, without the empty constants. -/
def concatOf (es : List Expr) : Expr :=
  match es.filter fun e => e ≠ .constant "" with
  | [] => .constant ""
  | [e] => e
  | parts => .concat parts

/-! ### Columns -/

mutual

/-- The columns of an expression, in the order in which they occur. -/
def columnList : Expr → List Column
  | .always => []
  | .never => []
  | .column c => [c]
  | .constant _ => []
  | .concat es => columnLists es
  | .and es => columnLists es
  | .or es => columnLists es
  | .not e => columnList e
  | .equal a b => columnList a ++ columnList b
  | .isNotNull e => columnList e

/-- The columns of some expressions, in the order in which they occur. -/
def columnLists : List Expr → List Column
  | [] => []
  | e :: es => columnList e ++ columnLists es

end

/-- The columns of an expression. -/
def columns (e : Expr) : List Column :=
  canonical e.columnList

mutual

/-- Renames the columns of an expression and simplifies the result. -/
def rename (f : Column → Column) : Expr → Expr
  | .always => .always
  | .never => .never
  | .column c => .column (f c)
  | .constant s => .constant s
  | .concat es => concatOf (renameAll f es)
  | .and es => andAll (renameAll f es)
  | .or es => orAll (renameAll f es)
  | .not e => notOf (rename f e)
  | .equal a b => equalOf (rename f a) (rename f b)
  | .isNotNull e => .isNotNull (rename f e)

/-- Renames the columns of some expressions. -/
def renameAll (f : Column → Column) : List Expr → List Expr
  | [] => []
  | e :: es => rename f e :: renameAll f es

end

/-! ### Writing -/

/-- The character around SQL strings. -/
def quoteMark : Char := Char.ofNat 39

/-- Doubles the quotes of a text. -/
def doubleQuotes (cs : List Char) : List Char :=
  cs.flatMap fun c => if c = quoteMark then [c, c] else [c]

/-- A text as an SQL string: quotes in it are doubled. -/
def quote (s : String) : String :=
  "'" ++ String.ofList (doubleQuotes s.toList) ++ "'"

mutual

/-- Writes an expression in SQL. -/
def render : Expr → String
  | .always => "1 = 1"
  | .never => "1 = 0"
  | .column c => c.render
  | .constant s => quote s
  | .concat es => "(" ++ " || ".intercalate (renderAll es) ++ ")"
  | .and es => "(" ++ " AND ".intercalate (renderAll es) ++ ")"
  | .or es => "(" ++ " OR ".intercalate (renderAll es) ++ ")"
  | .not e => "NOT (" ++ render e ++ ")"
  | .equal a b => render a ++ " = " ++ render b
  | .isNotNull e => render e ++ " IS NOT NULL"

/-- Writes some expressions in SQL. -/
def renderAll : List Expr → List String
  | [] => []
  | e :: es => render e :: renderAll es

end

end Expr

end RelGraph.Sql
