import RecordSync.Proofs.Sql.Token

/-!
# Commands of SQL

The part of SQL that a store of records is spoken to in: a new row with values in some columns, new
values in the rows that satisfy all of some conditions, the columns of such rows in an order, and
the columns of a table in the catalog. Names stand as they are resolved: in lower case unless they
were quoted.

Key definitions: `Sql.Expr`, `Sql.Condition`, `Sql.Command`, `Sql.read?`, `Sql.placeholders`.
-/
namespace RecordSync
namespace Sql

/-- An expression. -/
inductive Expr where
  /-- A column, by its name. -/
  | name (s : String)
  | placeholder (n : Nat)
  | bool (b : Bool)
  /-- The time of the statement. -/
  | now
  /-- A time, moved on by a microsecond. -/
  | later (e : Expr)
  /-- The greater of two values. -/
  | greatest (a b : Expr)
  deriving DecidableEq, Repr

/-- A comparison of two values. -/
inductive Condition where
  | equal (a b : Expr)
  | greater (a b : Expr)
  deriving DecidableEq, Repr

/-- A command. -/
inductive Command where
  | insert (table : String) (columns : List String) (values : List Expr)
  | update (table : String) (assignments : List (String × Expr)) (conditions : List Condition)
  | select (columns : List String) (table : String) (conditions : List Condition)
      (order : List String)
  /-- The names of a table's columns, in their order; the table's name is a placeholder's value. -/
  | catalog (name : Nat)
  deriving DecidableEq, Repr

/-! ### Reading tokens -/

/-- The name that a token is. -/
def Token.name? : Token → Option String
  | .word s => some s
  | .quoted s => some s
  | _ => none

/-- The expression that a single token is. -/
def Token.operand? : Token → Option Expr
  | .placeholder n => some (.placeholder n)
  | .word "true" => some (.bool true)
  | .word "false" => some (.bool false)
  | .word s => some (.name s)
  | .quoted s => some (.name s)
  | _ => none

/-- The number of a placeholder. -/
def Token.placeholder? : Token → Option Nat
  | .placeholder n => some n
  | _ => none

@[simp] theorem Token.placeholder?_word (s : String) : (word s).placeholder? = none := rfl
@[simp] theorem Token.placeholder?_quoted (s : String) : (quoted s).placeholder? = none := rfl
@[simp] theorem Token.placeholder?_literal (s : String) : (literal s).placeholder? = none := rfl
@[simp] theorem Token.placeholder?_symbol (c : Char) : (symbol c).placeholder? = none := rfl
@[simp] theorem Token.placeholder?_placeholder (n : Nat) :
    (placeholder n).placeholder? = some n := rfl

/-- Reads one or more tokens with commas between them. -/
def list {α : Type} (read : Token → Option α) : List Token → Option (List α × List Token)
  | [] => none
  | tok :: .symbol ',' :: ts => do
    let x ← read tok
    let (xs, rest) ← list read ts
    some (x :: xs, rest)
  | tok :: ts => (read tok).map fun x => ([x], ts)

/-- Reads an expression other than a choice of the greater one. -/
def sum : List Token → Option (Expr × List Token)
  | .word "now" :: .symbol '(' :: .symbol ')' :: ts => some (.now, ts)
  | tok :: .symbol '+' :: .word "interval" :: .literal "1 microsecond" :: ts =>
    tok.operand?.map fun e => (.later e, ts)
  | tok :: ts => tok.operand?.map fun e => (e, ts)
  | [] => none

/-- Reads an expression. -/
def expr : List Token → Option (Expr × List Token)
  | .word "greatest" :: .symbol '(' :: ts =>
    match sum ts with
    | some (a, .symbol ',' :: ts) =>
      match sum ts with
      | some (b, .symbol ')' :: ts) => some (.greatest a b, ts)
      | _ => none
    | _ => none
  | ts => sum ts

/-- Reads one or more assignments with commas between them. -/
def assignments : List Token → Option (List (String × Expr) × List Token)
  | .word c :: .symbol '=' :: ts =>
    match expr ts with
    | none => none
    | some (e, .symbol ',' :: rest) =>
      if rest.length < ts.length then
        (assignments rest).map fun r => ((c, e) :: r.1, r.2)
      else none
    | some (e, rest) => some ([(c, e)], rest)
  | _ => none
termination_by ts => ts.length

/-- The comparison that a symbol stands for. -/
def comparison? : Char → Option (Expr → Expr → Condition)
  | '=' => some .equal
  | '>' => some .greater
  | _ => none

/-- Reads one or more conditions, all of which have to hold. -/
def conditions : List Token → Option (List Condition × List Token)
  | a :: .symbol c :: b :: .word "and" :: ts => do
    let x := (← comparison? c) (← a.operand?) (← b.operand?)
    let (xs, rest) ← conditions ts
    some (x :: xs, rest)
  | a :: .symbol c :: b :: ts => do
    some ([(← comparison? c) (← a.operand?) (← b.operand?)], ts)
  | _ => none

/-- The tokens of a query of the catalog, after its first. -/
def catalogTokens (name : Nat) : List Token :=
  [.word "column_name", .symbol ':', .symbol ':', .word "text", .word "from",
    .word "information_schema", .symbol '.', .word "columns", .word "where", .word "table_schema",
    .symbol '=', .word "current_schema", .symbol '(', .symbol ')', .word "and", .word "table_name",
    .symbol '=', .placeholder name, .word "order", .word "by", .word "ordinal_position"]

/-- Reads what follows the word `insert`. -/
def insertBody : List Token → Option Command
  | .word "into" :: .word t :: .symbol '(' :: ts =>
    match list Token.name? ts with
    | some (columns, .symbol ')' :: .word "values" :: .symbol '(' :: ts) =>
      match list Token.operand? ts with
      | some (values, [.symbol ')']) => some (.insert t columns values)
      | _ => none
    | _ => none
  | _ => none

/-- Reads what follows the word `update`. -/
def updateBody : List Token → Option Command
  | .word t :: .word "set" :: ts =>
    match assignments ts with
    | some (as, .word "where" :: ts) =>
      match conditions ts with
      | some (cs, []) => some (.update t as cs)
      | _ => none
    | _ => none
  | _ => none

/-- Reads what follows the word `select`. -/
def selectBody (ts : List Token) : Option Command :=
  match list Token.name? ts with
  | some (columns, .word "from" :: .word t :: .word "where" :: ts) =>
    match conditions ts with
    | some (cs, .word "order" :: .word "by" :: ts) =>
      match list Token.name? ts with
      | some (order, []) => some (.select columns t cs order)
      | _ => none
    | _ => none
  | _ => none

/-- Reads a whole command. -/
def command : List Token → Option Command
  | .word "insert" :: ts => insertBody ts
  | .word "update" :: ts => updateBody ts
  | .word "select" :: ts =>
    match ts.findSome? Token.placeholder? with
    | some n => if ts = catalogTokens n then some (.catalog n) else selectBody ts
    | none => selectBody ts
  | _ => none

/-- The command that a text is, if it is one. -/
def read? (s : String) : Option Command := (tokens? s).bind command

/-- The numbers of the placeholders in a text, in the order in which they stand there. -/
def placeholders (s : String) : List Nat := ((tokens? s).getD []).filterMap Token.placeholder?

end Sql
end RecordSync
