import RecordSync.Proofs.Columns
import RecordSync.Proofs.Sql.Command
import RecordSync.Statement

/-!
# Statements as commands

Every statement about records, as the store takes it, is read back as the command that it is meant
to be: the text of a new row lists its columns and its placeholders, the text of a change assigns
each column its placeholder and moves the time of writing on, and so for the others. The tokens of
each text are given first; its command and its placeholders are read off them.

Key definitions: `Sql.insertTokens`, `Sql.updateTokens`, `Sql.selectTokens`, `Sql.stamped`,
`Sql.ownRow`.
Key theorems: `Sql.read?_insert`, `Sql.read?_update`, `Sql.read?_delete`, `Sql.read?_select`,
`Sql.read?_columns`.
-/
namespace RecordSync
namespace Sql

/-! ### Names and numbers -/

theorem pending_column (c : Column) : Pending c.name [.word c.name] := by
  have lower : Text.lower c.name = c.name := by
    rcases c with c | c <;> cases c <;> decide
  have word : isWord c.name = true := by
    rcases c with c | c <;> cases c <;> decide
  have := pending_word word
  rwa [lower] at this

theorem pending_table (t : Table) : Pending t.name [.word t.catalogName] :=
  pending_word (by cases t <;> decide)

/-! ### Lists -/

/-- A list is read up to what follows it. -/
theorem list_separated {α β : Type} (read : Token → Option β) (tok : α → Token) (val : α → β)
    {xs : List α} (hne : xs ≠ []) (h : ∀ x ∈ xs, read (tok x) = some (val x)) (rest : List Token)
    (hr : rest.head? ≠ some (.symbol ',')) :
    list read (separated (xs.map tok) ++ rest) = some (xs.map val, rest) := by
  induction xs with
  | nil => exact absurd rfl hne
  | cons x xs ih =>
    obtain ⟨hx, hxs⟩ := List.forall_mem_cons.mp h
    cases xs with
    | nil =>
      have last : list read (tok x :: rest) = (read (tok x)).map fun y => ([y], rest) := by
        rw [list]
        rintro ts rfl
        simp at hr
      simp [separated, last, hx]
    | cons y ys =>
      have more := ih (by simp) hxs
      simp only [List.map_cons] at more
      simp [separated, list, hx, more]

/-! ### New rows -/

/-- The tokens of a new row. -/
def insertTokens (t : Table) (values : List (Column × Nat)) : List Token :=
  [.word "insert", .word "into", .word t.catalogName, .symbol '('] ++
    separated (values.map fun v => .word v.1.name) ++
    [.symbol ')', .word "values", .symbol '('] ++
    separated (values.map fun v => .placeholder v.2) ++ [.symbol ')']

theorem tokens_insert (t : Table) {values : List (Column × Nat)} (hne : values ≠ []) :
    tokens? (Statement.insert t values).text = some (insertTokens t values) := by
  have opening : Complete "INSERT INTO " [.word "insert", .word "into"] := by decide
  have paren : Complete " (" [.symbol '('] := by decide
  have between : Complete ") VALUES (" [.symbol ')', .word "values", .symbol '('] := by decide
  have closing : Complete ")" [.symbol ')'] := by decide
  have columns := pending_commas (fun v : Column × Nat => v.1.name) (fun v => .word v.1.name) hne
    fun v _ => pending_column v.1
  have numbers := pending_commas (fun v : Column × Nat => Statement.placeholder v.2)
    (fun v => .placeholder v.2) hne fun v _ => pending_placeholder v.2
  have head := (opening.append_pending (pending_table t)).append (by decide) paren
  have whole := (((head.append_pending columns).append (by decide) between).append_pending
    numbers).append (by decide) closing
  refine whole.tokens.trans ?_
  simp only [insertTokens, List.append_assoc, List.cons_append, List.nil_append]

/-- The text of a new row names its columns and gives each its placeholder. -/
theorem read?_insert (t : Table) {values : List (Column × Nat)} (hne : values ≠ []) :
    read? (Statement.insert t values).text = some (.insert t.catalogName
      (values.map fun v => v.1.name) (values.map fun v => .placeholder v.2)) := by
  have columns := list_separated Token.name? (fun v : Column × Nat => .word v.1.name)
    (fun v => v.1.name) hne (fun _ _ => rfl)
    (.symbol ')' :: .word "values" :: .symbol '(' ::
      (separated (values.map fun v => .placeholder v.2) ++ [.symbol ')'])) (by simp)
  have numbers := list_separated Token.operand? (fun v : Column × Nat => .placeholder v.2)
    (fun v => Expr.placeholder v.2) hne (fun _ _ => rfl) [.symbol ')'] (by simp)
  rw [read?, tokens_insert t hne, Option.bind_some, insertTokens]
  simp only [List.append_assoc, List.cons_append, List.nil_append, command, insertBody, columns,
    numbers]

/-! ### Changes -/

/-- The expression that the time of writing is assigned. -/
def stamped : Expr := .greatest .now (.later (.name "updated_at"))

/-- The tokens of the assignment of the time of writing. -/
def stampTokens : List Token :=
  [.word "updated_at", .symbol '=', .word "greatest", .symbol '(', .word "now", .symbol '(',
    .symbol ')', .symbol ',', .word "updated_at", .symbol '+', .word "interval",
    .literal "1 microsecond", .symbol ')']

/-- The conditions that select one row of a user. -/
def ownRow (owner id : Nat) : List Condition :=
  [.equal (.name "user_id") (.placeholder owner), .equal (.name "id") (.placeholder id)]

/-- The tokens of these conditions. -/
def ownRowTokens (owner id : Nat) : List Token :=
  [.word "where", .word "user_id", .symbol '=', .placeholder owner, .word "and", .word "id",
    .symbol '=', .placeholder id]

/-- The tokens of assignments, with a comma after each. -/
def assignmentTokens : List (DataColumn × Nat) → List Token
  | [] => []
  | v :: vs =>
    .word v.1.name :: .symbol '=' :: .placeholder v.2 :: .symbol ',' :: assignmentTokens vs

/-- The tokens of a change. -/
def updateTokens (t : Table) (values : List (DataColumn × Nat)) (owner id : Nat) : List Token :=
  [.word "update", .word t.catalogName, .word "set"] ++ assignmentTokens values ++ stampTokens ++
    ownRowTokens owner id

/-- The tokens of a mark of deletion. -/
def deleteTokens (t : Table) (owner id : Nat) : List Token :=
  [.word "update", .word t.catalogName, .word "set", .word "deleted", .symbol '=', .word "true",
    .symbol ','] ++ stampTokens ++ ownRowTokens owner id

theorem complete_assignments (values : List (DataColumn × Nat)) :
    Complete (Statement.assignments values) (assignmentTokens values) := by
  induction values with
  | nil => exact (by decide : Complete "" [])
  | cons v vs ih =>
    have equals : Complete " = " [.symbol '='] := by decide
    have comma : Complete ", " [.symbol ','] := by decide
    have head := (pending_column (.data v.1)).append (by decide) equals
    exact ((head.append_pending (pending_placeholder v.2)).append (by decide) comma).append ih

theorem complete_stamp : Complete Statement.stamp stampTokens := by decide +kernel

theorem pending_ownRow (owner id : Nat) :
    Pending (Statement.ownRow owner id) (ownRowTokens owner id) := by
  have first : Complete " WHERE user_id = " [.word "where", .word "user_id", .symbol '='] := by
    decide
  have second : Complete " AND id = " [.word "and", .word "id", .symbol '='] := by decide
  have head := (first.append_pending (pending_placeholder owner)).append (by decide) second
  exact head.append_pending (pending_placeholder id)

theorem tokens_update (t : Table) (values : List (DataColumn × Nat)) (owner id : Nat) :
    tokens? (Statement.update t values owner id).text = some (updateTokens t values owner id) := by
  have opening : Complete "UPDATE " [.word "update"] := by decide
  have set : Complete " SET " [.word "set"] := by decide
  have head := (opening.append_pending (pending_table t)).append (by decide) set
  have whole := ((head.append (complete_assignments values)).append complete_stamp).append_pending
    (pending_ownRow owner id)
  exact whole.tokens

theorem tokens_delete (t : Table) (owner id : Nat) :
    tokens? (Statement.delete t owner id).text = some (deleteTokens t owner id) := by
  have opening : Complete "UPDATE " [.word "update"] := by decide
  have set : Complete " SET deleted = TRUE, "
      [.word "set", .word "deleted", .symbol '=', .word "true", .symbol ','] := by decide
  have head := (opening.append_pending (pending_table t)).append (by decide) set
  have whole := (head.append complete_stamp).append_pending (pending_ownRow owner id)
  exact whole.tokens

theorem assignments_more {c : String} {e : Expr} {ts rest : List Token}
    (h : expr ts = some (e, .symbol ',' :: rest)) (hl : rest.length < ts.length) :
    assignments (.word c :: .symbol '=' :: ts) =
      (assignments rest).map fun r => ((c, e) :: r.1, r.2) := by
  rw [assignments, h]
  simp only [hl, ↓reduceIte]

theorem assignments_last {c : String} {e : Expr} {ts rest : List Token}
    (h : expr ts = some (e, rest)) (hr : rest.head? ≠ some (.symbol ',')) :
    assignments (.word c :: .symbol '=' :: ts) = some ([(c, e)], rest) := by
  rw [assignments, h]
  split
  · rename_i heq
    cases heq
  · rename_i heq
    obtain ⟨rfl, rfl⟩ : e = _ ∧ rest = _ := by simpa using heq
    simp at hr
  · rename_i heq
    obtain ⟨rfl, rfl⟩ : e = _ ∧ rest = _ := by simpa using heq
    rfl

theorem assignments_stamp (owner id : Nat) :
    assignments (stampTokens ++ ownRowTokens owner id) =
      some ([("updated_at", stamped)], ownRowTokens owner id) :=
  assignments_last (by rfl) (by simp [ownRowTokens])

/-- Assignments are read column by column, and the time of writing after them. -/
theorem assignments_read (values : List (DataColumn × Nat)) (owner id : Nat) :
    assignments (assignmentTokens values ++ (stampTokens ++ ownRowTokens owner id)) =
      some (values.map (fun v => (v.1.name, .placeholder v.2)) ++ [("updated_at", stamped)],
        ownRowTokens owner id) := by
  induction values with
  | nil => exact assignments_stamp owner id
  | cons v vs ih =>
    have value (ts : List Token) : expr (.placeholder v.2 :: .symbol ',' :: ts) =
        some (.placeholder v.2, .symbol ',' :: ts) := rfl
    simp only [assignmentTokens, List.cons_append]
    rw [assignments_more (value _) (by simp only [List.length_cons]; omega), ih]
    rfl

theorem conditions_ownRow (owner id : Nat) :
    conditions (ownRowTokens owner id).tail = some (ownRow owner id, []) := rfl

theorem updateBody_read {t : String} {ts : List Token} {as : List (String × Expr)} {owner id : Nat}
    (h : assignments ts = some (as, ownRowTokens owner id)) :
    updateBody (.word t :: .word "set" :: ts) = some (.update t as (ownRow owner id)) := by
  have selected := conditions_ownRow owner id
  rw [ownRowTokens] at h selected
  rw [List.tail_cons] at selected
  simp only [updateBody, h, selected]

/-- The text of a change assigns each column its placeholder, moves the time of writing on, and
selects one row of a user. -/
theorem read?_update (t : Table) (values : List (DataColumn × Nat)) (owner id : Nat) :
    read? (Statement.update t values owner id).text = some (.update t.catalogName
      (values.map (fun v => (v.1.name, .placeholder v.2)) ++ [("updated_at", stamped)])
      (ownRow owner id)) := by
  rw [read?, tokens_update, Option.bind_some, updateTokens]
  simp only [List.append_assoc, List.cons_append, List.nil_append, command]
  exact updateBody_read (assignments_read values owner id)

/-- The text of a mark of deletion sets the mark, moves the time of writing on, and selects one row
of a user. -/
theorem read?_delete (t : Table) (owner id : Nat) :
    read? (Statement.delete t owner id).text = some (.update t.catalogName
      [("deleted", .bool true), ("updated_at", stamped)] (ownRow owner id)) := by
  have mark (ts : List Token) : expr (.word "true" :: .symbol ',' :: ts) =
      some (.bool true, .symbol ',' :: ts) := rfl
  rw [read?, tokens_delete, Option.bind_some, deleteTokens]
  simp only [List.cons_append, List.nil_append, command]
  refine updateBody_read ?_
  rw [assignments_more (mark _) (by simp only [List.length_cons]; omega), assignments_stamp]
  rfl

/-! ### Reads -/

/-- The conditions of a read. -/
def readConditions (owner : Nat) (includeDeleted : Bool) (since : Option Nat) : List Condition :=
  .equal (.name "user_id") (.placeholder owner) ::
    ((if includeDeleted then [] else [.equal (.name "deleted") (.bool false)]) ++
      (since.map fun n => .greater (.name "updated_at") (.placeholder n)).toList)

/-- The tokens of the conditions of a read after the first. -/
def laterConditionTokens (includeDeleted : Bool) (since : Option Nat) : List Token :=
  (if includeDeleted then [] else [.word "and", .word "deleted", .symbol '=', .word "false"]) ++
    match since with
    | none => []
    | some n => [.word "and", .word "updated_at", .symbol '>', .placeholder n]

/-- The tokens of the order of a read. -/
def orderTokens : List Token :=
  [.word "order", .word "by", .word "updated_at", .symbol ',', .word "id"]

/-- The tokens of a read. -/
def selectTokens (t : Table) (names : List String) (owner : Nat) (includeDeleted : Bool)
    (since : Option Nat) : List Token :=
  [.word "select"] ++ separated (names.map .quoted) ++
    [.word "from", .word t.catalogName, .word "where", .word "user_id", .symbol '=',
      .placeholder owner] ++ laterConditionTokens includeDeleted since ++ orderTokens

theorem pending_order : Pending " ORDER BY updated_at, id" orderTokens := by
  have head : Complete " ORDER BY updated_at, " [.word "order", .word "by", .word "updated_at",
      .symbol ','] := by decide
  exact head.append_pending (pending_column (.convention .id))

theorem pending_laterConditions {s : String} {ts : List Token} (h : Pending s ts)
    (includeDeleted : Bool) (since : Option Nat) :
    Pending (s ++ (if includeDeleted then "" else " AND deleted = FALSE") ++
      Statement.sinceCondition since) (ts ++ laterConditionTokens includeDeleted since) := by
  have live : Pending (s ++ if includeDeleted then "" else " AND deleted = FALSE")
      (ts ++ if includeDeleted then [] else [.word "and", .word "deleted", .symbol '=',
        .word "false"]) := by
    cases includeDeleted with
    | true =>
      change Pending (s ++ "") (ts ++ [])
      rwa [String.append_empty, List.append_nil]
    | false =>
      have head : Complete " AND deleted = " [.word "and", .word "deleted", .symbol '='] := by
        decide
      exact h.append_pending (by decide)
        (head.append_pending (pending_word (by decide : isWord "FALSE" = true)))
  cases since with
  | none =>
    change Pending (_ ++ "") (ts ++ (_ ++ []))
    rwa [String.append_empty, List.append_nil]
  | some n =>
    have head : Complete " AND updated_at > " [.word "and", .word "updated_at", .symbol '>'] := by
      decide
    have opens : Delimited (" AND updated_at > " ++ Statement.placeholder n) := by
      rw [Delimited, String.toList_append]
      rfl
    have := live.append_pending opens (head.append_pending (pending_placeholder n))
    rwa [List.append_assoc] at this

theorem tokens_select (t : Table) {names : List String} (hne : names ≠ []) (owner : Nat)
    (includeDeleted : Bool) (since : Option Nat) :
    tokens? (Statement.select t names owner includeDeleted since).text =
      some (selectTokens t names owner includeDeleted since) := by
  have opening : Complete "SELECT " [.word "select"] := by decide
  have source : Complete " FROM " [.word "from"] := by decide
  have filter : Complete " WHERE user_id = " [.word "where", .word "user_id", .symbol '='] := by
    decide
  have columns := pending_commas Quoted.quote .quoted hne fun name _ => pending_quote name
  have head := ((opening.append_pending columns).append (by decide) source).append_pending
    (pending_table t)
  have owned := (head.append (by decide) filter).append_pending (pending_placeholder owner)
  have whole := (pending_laterConditions owned includeDeleted since).append_pending (by decide)
    pending_order
  refine whole.tokens.trans ?_
  simp only [selectTokens, List.append_assoc, List.cons_append, List.nil_append]

theorem conditions_read (owner : Nat) (includeDeleted : Bool) (since : Option Nat) :
    conditions (.word "user_id" :: .symbol '=' :: .placeholder owner ::
      (laterConditionTokens includeDeleted since ++ orderTokens)) =
        some (readConditions owner includeDeleted since, orderTokens) := by
  cases includeDeleted <;> cases since <;> rfl

theorem command_select {ts : List Token} (h : ∀ n, ts ≠ catalogTokens n) :
    command (.word "select" :: ts) = selectBody ts := by
  simp only [command]
  cases ts.findSome? Token.placeholder? with
  | none => rfl
  | some n => simp only [h n, ↓reduceIte]

/-- The text of a read names its columns, whatever their names, and selects the rows of a user: the
live ones unless deleted ones are included, and those written after a time if one is given. -/
theorem read?_select (t : Table) {names : List String} (hne : names ≠ []) (owner : Nat)
    (includeDeleted : Bool) (since : Option Nat) :
    read? (Statement.select t names owner includeDeleted since).text =
      some (.select names t.catalogName (readConditions owner includeDeleted since)
        ["updated_at", "id"]) := by
  have columns := list_separated Token.name? Token.quoted id hne (fun _ _ => rfl)
    (.word "from" :: .word t.catalogName :: .word "where" :: .word "user_id" :: .symbol '=' ::
      .placeholder owner :: (laterConditionTokens includeDeleted since ++ orderTokens)) (by simp)
  have ordered : list Token.name? [.word "updated_at", .symbol ',', .word "id"] =
      some (["updated_at", "id"], []) := rfl
  have filtered := conditions_read owner includeDeleted since
  rw [read?, tokens_select t hne, Option.bind_some, selectTokens]
  simp only [List.append_assoc, List.cons_append, List.nil_append]
  rw [command_select]
  · rw [orderTokens] at filtered columns ⊢
    simp only [selectBody, columns, filtered, ordered, List.map_id]
  · intro n heq
    obtain ⟨name, names, rfl⟩ := List.exists_cons_of_ne_nil hne
    cases names <;> simp [separated, catalogTokens] at heq

/-- The text of a look-up of columns is read as one. -/
theorem read?_columns (name : Nat) :
    read? (Statement.columns name).text = some (.catalog name) := by
  have first : Complete "\n    SELECT column_name::text\n    FROM information_schema.columns\n"
      [.word "select", .word "column_name", .symbol ':', .symbol ':', .word "text", .word "from",
        .word "information_schema", .symbol '.', .word "columns"] := by decide +kernel
  have second : Complete "    WHERE table_schema = current_schema() AND table_name = "
      [.word "where", .word "table_schema", .symbol '=', .word "current_schema", .symbol '(',
        .symbol ')', .word "and", .word "table_name", .symbol '='] := by decide +kernel
  have third : Complete "\n    ORDER BY ordinal_position\n"
      [.word "order", .word "by", .word "ordinal_position"] := by decide +kernel
  have whole := ((first.append second).append_pending (pending_placeholder name)).append
    (by decide) third
  have tokens : tokens? (Statement.columns name).text =
      some (.word "select" :: catalogTokens name) := whole.tokens
  rw [read?, tokens, Option.bind_some]
  have found : (catalogTokens name).findSome? Token.placeholder? = some name := rfl
  simp only [command, found, ↓reduceIte]

/-! ### Placeholders -/

/-- Commas between tokens change nothing about the placeholders. -/
theorem placeholders_separated {α : Type} (tok : α → Token) (xs : List α) :
    (separated (xs.map tok)).filterMap Token.placeholder? =
      xs.filterMap fun x => (tok x).placeholder? := by
  induction xs with
  | nil => rfl
  | cons x xs ih =>
    cases xs with
    | nil => rfl
    | cons y ys =>
      have comma (ts : List Token) : (Token.symbol ',' :: ts).filterMap Token.placeholder? =
          ts.filterMap Token.placeholder? := rfl
      have more : separated ((x :: y :: ys).map tok) =
          tok x :: .symbol ',' :: separated ((y :: ys).map tok) := rfl
      rw [more, List.filterMap_cons, comma, ih]
      rfl

theorem placeholders_insert (t : Table) {values : List (Column × Nat)} (hne : values ≠ []) :
    placeholders (Statement.insert t values).text = values.map Prod.snd := by
  have words : values.filterMap (fun v => (Token.word v.1.name).placeholder?) = [] :=
    List.filterMap_eq_nil_iff.mpr fun _ _ => rfl
  have numbers : values.filterMap (fun v => (Token.placeholder v.2).placeholder?) =
      values.map Prod.snd := congrFun List.filterMap_eq_map values
  rw [placeholders, tokens_insert t hne, Option.getD_some, insertTokens]
  simp only [List.filterMap_append, placeholders_separated, words, numbers]
  simp [List.filterMap_cons]

theorem placeholders_assignments (values : List (DataColumn × Nat)) :
    (assignmentTokens values).filterMap Token.placeholder? = values.map Prod.snd := by
  induction values with
  | nil => rfl
  | cons v vs ih => simp [assignmentTokens, List.filterMap_cons, ih]

theorem placeholders_update (t : Table) (values : List (DataColumn × Nat)) (owner id : Nat) :
    placeholders (Statement.update t values owner id).text =
      values.map Prod.snd ++ [owner, id] := by
  rw [placeholders, tokens_update, Option.getD_some, updateTokens]
  simp [placeholders_assignments, stampTokens, ownRowTokens, List.filterMap_cons]

theorem placeholders_delete (t : Table) (owner id : Nat) :
    placeholders (Statement.delete t owner id).text = [owner, id] := by
  rw [placeholders, tokens_delete, Option.getD_some]
  rfl

theorem placeholders_select (t : Table) {names : List String} (hne : names ≠ []) (owner : Nat)
    (includeDeleted : Bool) (since : Option Nat) :
    placeholders (Statement.select t names owner includeDeleted since).text =
      owner :: since.toList := by
  have quoted : names.filterMap (fun name => (Token.quoted name).placeholder?) = [] :=
    List.filterMap_eq_nil_iff.mpr fun _ _ => rfl
  have later : (laterConditionTokens includeDeleted since).filterMap Token.placeholder? =
      since.toList := by
    cases includeDeleted <;> cases since <;> rfl
  rw [placeholders, tokens_select t hne, Option.getD_some, selectTokens]
  simp only [List.filterMap_append, placeholders_separated, quoted, later]
  simp [orderTokens, List.filterMap_cons]

end Sql
end RecordSync
