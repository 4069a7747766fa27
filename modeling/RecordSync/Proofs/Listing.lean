import RecordSync.Proofs.Commands
import RecordSync.Proofs.Decoding
import RecordSync.Proofs.Json.Records
import RecordSync.Text.Split

/-!
# The lines of a listing

A listing writes the parts of each record with two spaces between them, and a line feed behind the
last. Texts stand in it as they are. So a record has one line only as long as none of its texts has
a line feed: each line feed ends a line, and what follows it may look like the line of another
record.

Key definitions: `Text.lines`, `Record.parts`, `Record.line`, `Record.lineFeeds`, `Reader.Titled`.
Key theorems: `Cli.recordLine_eq_line`, `Cli.lines_recordList`, `Cli.lines_eq_map_line_iff`,
`Cli.exists_one_for_all`, `Cli.listing_breaks_at_line_feeds`.
-/
namespace RecordSync

/-! ### Lines -/

namespace Text

variable {s : String}

/-- A text broken at its line feeds. -/
def broken (s : String) : List String := (split '\n' s.toList).map String.ofList

/-- The lines of a text: what each line feed ends. -/
def lines (s : String) : List String := (broken s).dropLast

/-- A character that is no separator stands at the front of the first piece. -/
theorem split_cons_of_ne {c x : Char} (h : x ≠ c) (xs : List Char) :
    ∃ p ps, split c xs = p :: ps ∧ split c (x :: xs) = (x :: p) :: ps := by
  obtain ⟨p, ps, hs⟩ := List.exists_cons_of_ne_nil (split_ne_nil c xs)
  exact ⟨p, ps, hs, by rw [split, if_neg h, hs]⟩

/-- The pieces around a separator are those before it and those after it. -/
theorem split_append (c : Char) (xs ys : List Char) :
    split c (xs ++ c :: ys) = split c xs ++ split c ys := by
  induction xs with
  | nil => simp [split]
  | cons x xs ih =>
    by_cases h : x = c
    · simp [split, h, ih]
    · obtain ⟨p, ps, before, added⟩ := split_cons_of_ne h xs
      obtain ⟨q, qs, whole, extended⟩ := split_cons_of_ne h (xs ++ c :: ys)
      rw [ih, before, List.cons_append] at whole
      obtain ⟨rfl, rfl⟩ := List.cons.inj whole
      rw [List.cons_append, extended, added, List.cons_append]

theorem length_split (c : Char) (xs : List Char) : (split c xs).length = xs.count c + 1 := by
  induction xs with
  | nil => rfl
  | cons x xs ih =>
    by_cases h : x = c
    · simp [split, h, ih]
    · obtain ⟨p, ps, before, added⟩ := split_cons_of_ne h xs
      rw [added, List.count_cons_of_ne h, ← ih, before, List.length_cons, List.length_cons]

theorem length_broken (s : String) : (broken s).length = s.toList.count '\n' + 1 := by
  rw [broken, List.length_map, length_split]

/-- A text without line feeds is not broken. -/
theorem broken_eq_singleton_iff : broken s = [s] ↔ '\n' ∉ s.toList := by
  rw [← List.count_eq_zero]
  constructor
  · intro h
    have one := length_broken s
    rw [h, List.length_singleton] at one
    omega
  · intro none_counted
    have one := length_split '\n' s.toList
    rw [none_counted] at one
    obtain ⟨p, hp⟩ := List.length_eq_one_iff.mp one
    have whole := join_split '\n' s.toList
    rw [hp] at whole
    rw [broken, hp]
    simpa [join] using congrArg String.ofList whole

/-- What is written with a line feed behind each text has the lines of the texts. -/
theorem lines_join (ss : List String) :
    lines (String.join (ss.map Cli.line)) = ss.flatMap broken := by
  -- Behind the last line feed there is one piece more, which is empty.
  have pieces : split '\n' (String.join (ss.map Cli.line)).toList =
      (ss.flatMap fun s => split '\n' s.toList) ++ [[]] := by
    induction ss with
    | nil => rfl
    | cons s ss ih =>
      rw [List.map_cons, String.join_cons, String.toList_append, Cli.line, String.toList_append,
        List.append_assoc]
      change split '\n' (s.toList ++ '\n' :: (String.join (ss.map Cli.line)).toList) = _
      rw [split_append, ih, List.flatMap_cons, List.append_assoc]
  rw [lines, broken, pieces, List.map_append, List.map_singleton, List.dropLast_concat,
    List.map_flatMap]
  rfl

/-! ### Texts with a separator -/

/-- Each text but the first has the separator in front. -/
theorem intercalate_cons (separator s : String) (ss : List String) :
    separator.intercalate (s :: ss) = s ++ String.join (ss.map (separator ++ ·)) := by
  induction ss generalizing s with
  | nil => simp
  | cons t ss ih =>
    rw [String.intercalate_cons_cons, ih, List.map_cons, String.join_cons]
    simp only [String.append_assoc]

/-- What does not stand in the separator is counted in the texts. -/
theorem count_intercalate (c : Char) {separator : String} (apart : c ∉ separator.toList)
    (ss : List String) : (separator.intercalate ss).toList.count c =
      (ss.map fun s => s.toList.count c).sum := by
  have none_counted : separator.toList.count c = 0 := List.count_eq_zero.mpr apart
  induction ss with
  | nil => simp
  | cons s ss ih =>
    cases ss with
    | nil => simp
    | cons t ss =>
      rw [String.intercalate_cons_cons, String.toList_append, String.toList_append,
        List.count_append, List.count_append, none_counted, ih, Nat.add_zero]
      rfl

end Text

/-! ### The line of a record -/

namespace Record

/-- The columns that a line does not name. -/
def unnamed : List String := ["id", "user_id", "updated_at", "deleted"]

/-- The columns that a line shows with their names and values. -/
def data (r : Record) : List (String × Option String) := r.entries.filter fun e => e.1 ∉ unnamed

/-- The parts of a record's line: its id, when it was written, the mark of deletion, its data. -/
def parts (r : Record) : List String :=
  [r.id?.getD "-", (r.get? "updated_at").getD "-"] ++ (if r.isDeleted then ["[deleted]"] else []) ++
    r.data.map fun e => e.1 ++ "=" ++ e.2.getD "NULL"

/-- The line of a record. -/
def line (r : Record) : String := String.intercalate "  " r.parts

/-- The texts that stand in the line as they were read. -/
def texts (r : Record) : List String :=
  [r.id?.getD "-", (r.get? "updated_at").getD "-"] ++ r.data.flatMap fun e => [e.1, e.2.getD "NULL"]

/-- The number of line feeds in these texts. -/
def lineFeeds (r : Record) : Nat := (r.texts.map fun s => s.toList.count '\n').sum

end Record

namespace Cli

theorem isConventional_iff {column : String} :
    isConventional column = true ↔ column ∈ Record.unnamed := by
  unfold isConventional Record.unnamed
  rw [List.any_eq_true]
  constructor
  · rintro ⟨c, -, same⟩
    obtain rfl := beq_iff_eq.mp same
    cases c <;> decide
  · intro h
    simp only [List.mem_cons, List.not_mem_nil, or_false] at h
    rcases h with rfl | rfl | rfl | rfl <;> decide

/-- The columns that are passed over leave nothing in the line. -/
theorem join_columnText (es : List (String × Option String)) :
    String.join (es.map columnText) = String.join (((es.filter fun e => e.1 ∉ Record.unnamed).map
      fun e => e.1 ++ "=" ++ e.2.getD "NULL").map ("  " ++ ·)) := by
  induction es with
  | nil => rfl
  | cons e es ih =>
    rw [List.map_cons, String.join_cons, ih, columnText]
    by_cases h : e.1 ∈ Record.unnamed
    · rw [if_pos (isConventional_iff.mpr h), List.filter_cons_of_neg (by simp [h]),
        String.empty_append]
    · rw [if_neg fun named => h (isConventional_iff.mp named),
        List.filter_cons_of_pos (by simpa using h), List.map_cons, List.map_cons, String.join_cons]
      simp only [String.append_assoc]

/-- What is printed for a record is its line. -/
theorem recordLine_eq_line (r : Record) : recordLine r = r.line := by
  rw [recordLine, join_columnText, Record.line, Record.parts, List.append_assoc,
    List.cons_append, Text.intercalate_cons]
  cases r.isDeleted <;> simp [Record.data, String.append_assoc]

/-! ### The lines of a listing -/

theorem recordList_eq_join {rs : List Record} (some_record : rs ≠ []) :
    recordList false rs = String.join ((rs.map Record.line).map line) := by
  have filled : rs.isEmpty = false := by simpa using some_record
  rw [recordList, filled, List.map_map]
  simp [recordLine_eq_line, Function.comp_def]

/-- The lines of a listing are the lines of the records, each broken at its line feeds. -/
theorem lines_recordList {rs : List Record} (some_record : rs ≠ []) :
    Text.lines (recordList false rs) = rs.flatMap fun r => Text.broken r.line := by
  rw [recordList_eq_join some_record, Text.lines_join, List.flatMap_map]

/-- The line feeds in a line are those of the texts. -/
theorem count_line (r : Record) : r.line.toList.count '\n' = r.lineFeeds := by
  have mark : ((if r.isDeleted then ["[deleted]"] else []).map
      fun s => s.toList.count '\n').sum = 0 := by
    split <;> rfl
  have named (es : List (String × Option String)) :
      ((es.map fun e => e.1 ++ "=" ++ e.2.getD "NULL").map fun s => s.toList.count '\n').sum =
        ((es.flatMap fun e => [e.1, e.2.getD "NULL"]).map fun s => s.toList.count '\n').sum := by
    induction es with
    | nil => rfl
    | cons e es ih =>
      have between : "=".toList.count '\n' = 0 := rfl
      simp only [List.map_cons, List.sum_cons, List.flatMap_cons, List.cons_append,
        List.nil_append, String.toList_append, List.count_append, between, ih]
      omega
  rw [Record.line, Text.count_intercalate '\n' (by decide), Record.parts, Record.lineFeeds,
    Record.texts]
  simp only [List.map_append, List.sum_append, mark, named, Nat.add_zero]

theorem lineFeeds_eq_zero_iff {r : Record} :
    r.lineFeeds = 0 ↔ ∀ s ∈ r.texts, '\n' ∉ s.toList := by
  simp only [Record.lineFeeds, List.sum_eq_zero_iff, List.forall_mem_map, List.count_eq_zero]

/-- A listing has a line for each record, and one more for each line feed in their texts. -/
theorem length_lines_recordList {rs : List Record} (some_record : rs ≠ []) :
    (Text.lines (recordList false rs)).length =
      rs.length + (rs.map Record.lineFeeds).sum := by
  rw [lines_recordList some_record, List.length_flatMap]
  simp only [Text.length_broken, count_line]
  clear some_record
  induction rs with
  | nil => rfl
  | cons r rs ih =>
    simp only [List.map_cons, List.sum_cons, List.length_cons, ih]
    omega

/-- There is one line for each record exactly when no text has a line feed. -/
theorem lines_eq_map_line_iff {rs : List Record} (some_record : rs ≠ []) :
    Text.lines (recordList false rs) = rs.map Record.line ↔
      ∀ r ∈ rs, ∀ s ∈ r.texts, '\n' ∉ s.toList := by
  simp only [← lineFeeds_eq_zero_iff]
  constructor
  · intro h
    have counted := length_lines_recordList some_record
    rw [h, List.length_map] at counted
    have none_left : (rs.map Record.lineFeeds).sum = 0 := by omega
    exact List.forall_mem_map.mp (List.sum_eq_zero_iff.mp none_left)
  · intro whole
    rw [lines_recordList some_record, List.map_eq_flatMap]
    refine List.flatMap_congr fun r hr => Text.broken_eq_singleton_iff.mpr ?_
    rw [← List.count_eq_zero, count_line]
    exact whole r hr

end Cli

/-! ### Lines that look like records

A text with line feeds can look like lines that stand for records of their own. -/

namespace Record

variable {r : Record} {column : String}

/-- A column that lines do not name leaves no other trace in the data. -/
theorem data_insert (value : Option String) (h : column ∈ unnamed) :
    (r.insert column value).data = r.data := by
  unfold data insert
  dsimp only
  induction r.entries with
  | nil => simp [insertEntry, h]
  | cons e es ih =>
    rw [insertEntry]
    split
    · rename_i same
      simp [h, same]
    · rw [List.filter_cons, ih, List.filter_cons]

/-- With another id, the line starts with that id and goes on as before. -/
theorem line_insert_id (r : Record) (front : String) :
    (r.insert "id" (some (front ++ r.id?.getD "-"))).line = front ++ r.line := by
  have other {name : String} (apart : name ≠ "id") (value : Option String) :
      (r.insert "id" value).get? name = r.get? name := by
    rw [get?_insert, if_neg apart]
  have renamed (value : Option String) : (r.insert "id" value).id? = value := by
    rw [id?, get?_insert, if_pos rfl]
  rw [line, parts, line, parts, renamed, data_insert _ (by decide), isDeleted, isDeleted,
    other (by decide), other (by decide)]
  simp only [List.cons_append, Text.intercalate_cons, Option.getD_some, String.append_assoc]

end Record

namespace Cli

/-- What is printed for records is also printed for one record alone, which has the lines of all
but the last before the id of the last. -/
theorem exists_one_for_all {rs : List Record} (some_record : rs ≠ []) :
    ∃ r, recordList false [r] = recordList false rs := by
  obtain ⟨before, last, rfl⟩ := (List.eq_nil_or_concat rs).resolve_left some_record
  let front := String.join ((before.map Record.line).map line)
  refine ⟨last.insert "id" (some (front ++ last.id?.getD "-")), ?_⟩
  rw [recordList_eq_join (by simp), recordList_eq_join (by simp)]
  simp [Record.line_insert_id, line, front, String.append_assoc]

end Cli

/-! ### Rows as they are asked for -/

/-- Rows with columns of one list of names give records with these columns. -/
theorem Row.columns_of_decodes {rows : List Row} {rs : List Record} {names : List String}
    (decodes : List.Forall₂ Row.Decodes rows rs)
    (titles : ∀ row ∈ rows, row.map (fun f => f.column.name) = names) :
    ∀ r ∈ rs, r.columns = names.eraseDups := by
  induction decodes with
  | nil => exact nofun
  | cons decoded _ ih =>
    obtain ⟨title, titles⟩ := List.forall_mem_cons.mp titles
    exact List.forall_mem_cons.mpr ⟨by rw [decoded.columns, title], ih titles⟩

namespace Reader

/-- What a read of records hears: names that the catalog lists, and rows whose columns have these
names. -/
def Titled (t : Table) (s : Session) (names : List String) : Prop :=
  ∃ after answer after', Session.Listed {} s names after ∧
    Session.Heard {} ((records t).askedColumns s after) answer after' ∧
    ∀ row ∈ Session.rowsOf answer, row.map (fun f => f.column.name) = names

/-- The records of such rows have the columns as the catalog lists them, by plain names. -/
theorem columns_of_titled {t : Table} {user : UserId} {since : Option Instant}
    {includeDeleted : Bool} {s s' : Session} {names : List String} {rs : List Record}
    (titled : Titled t s names)
    (read : (Engine.readAll {} t user since includeDeleted).run s = (.ok rs, s')) :
    Catalog.Conforms names ∧ ∀ r ∈ rs, r.columns = names.eraseDups := by
  obtain ⟨after, answer, after', listed, heard, titles⟩ := titled
  -- A read that gives records has gone on to the rows, and these are the rows that it has heard.
  have goes := goes (.records t) {} user since includeDeleted s
  change Goes (.records t) {} user since includeDeleted s
    ((Engine.readAll {} t user since includeDeleted).run s).1 _ at goes
  rw [read] at goes
  rcases goes.of_listed listed with ⟨_, -, -, ⟨⟩⟩ | ⟨_, -, -, -, ⟨⟩⟩ |
    ⟨conforms, -, _, -, ⟨_, -, ⟨⟩⟩ | ⟨_, heard', given⟩⟩
  obtain ⟨rfl, -⟩ := heard.unique heard'
  have decodes := Row.toRecords_eq_ok_iff.mp (mapError_eq_ok_iff.mp given.symm)
  exact ⟨conforms, Row.columns_of_decodes decodes titles⟩

end Reader

/-- A plain name has no line feed. -/
theorem Catalog.lineFeed_notMem_of_isPlain {name : String} (plain : isPlain name = true) :
    '\n' ∉ name.toList := by
  unfold isPlain at plain
  split at plain
  · cases plain
  · rename_i c cs same
    simp only [Bool.and_eq_true, List.all_eq_true] at plain
    rw [same, List.mem_cons, not_or]
    refine ⟨?_, fun there => ?_⟩
    · rintro rfl
      exact absurd plain.1.1 (by decide)
    · exact absurd (plain.1.2 _ there) (by decide)

namespace Cli

/-! ### Runs that list records -/

/-- A run that lists records prints those that are read. -/
theorem run_perform_listing {env : Surroundings} {sources : Config.Sources} {args : List String}
    {r : Request} {c : Config} {t : Table} {name : String} {since : Option Instant}
    {includeDeleted json : Bool} {s₀ s s₁ s₂ : Session} {user : UserId} {rs : List Record}
    (accepted : readArguments args = .ok r)
    (command : r.command = .listRecords t name since includeDeleted json)
    (settings : sources.load r.databaseUrl = .ok c)
    (opened : (Lifecycle.openConfigured env c).run s₀ = (.ok (), s))
    (found : (Accounts.userId {} name).run s = (.ok user, s₁))
    (read : (Engine.readAll {} t user since includeDeleted).run s₁ = (.ok rs, s₂)) :
    ∃ exit last, (perform env sources args).run s₀ = (.ok exit, last) ∧ exit.code = 0 ∧
      exit.output = recordList json rs := by
  have task : r.command.run env c =
      withStore env c (runListRecords t name since includeDeleted json) := by rw [command]; rfl
  have listed : (runListRecords t name since includeDeleted json).run.run s =
      (.ok (.ok (recordList json rs)), s₂) :=
    runListRecords_eq_ok_iff.mpr ⟨user, s₁, rs, found, read, rfl⟩
  refine ⟨Exit.ofResult r (.ok (recordList json rs)), (Lifecycle.close.run s₂).2, ?_, rfl, rfl⟩
  rw [run_perform accepted settings task opened, listed]

/-- **A listing is broken at the line feeds of its texts, and nowhere else.** A run that lists the
records it has read prints the line of each, in order: the id and the time of writing, or a dash for
either, the mark of a deleted record, and its data with their names, in the order of the catalog if
the rows have the columns that were asked for. Line feeds in the texts end lines too, each of them
one more. So there is one line for each record, and it is the record's, exactly when no text has a
line feed; and with line feeds one record may have all the lines of several. -/
theorem listing_breaks_at_line_feeds {env : Surroundings} {sources : Config.Sources}
    {args : List String} {r : Request} {c : Config} {t : Table} {name : String}
    {since : Option Instant} {includeDeleted : Bool} {s₀ s s₁ s₂ : Session} {user : UserId}
    {rs : List Record} (accepted : readArguments args = .ok r)
    (command : r.command = .listRecords t name since includeDeleted false)
    (settings : sources.load r.databaseUrl = .ok c)
    (opened : (Lifecycle.openConfigured env c).run s₀ = (.ok (), s))
    (found : (Accounts.userId {} name).run s = (.ok user, s₁))
    (read : (Engine.readAll {} t user since includeDeleted).run s₁ = (.ok rs, s₂))
    (some_record : rs ≠ []) :
    ∃ exit last, (perform env sources args).run s₀ = (.ok exit, last) ∧ exit.code = 0 ∧
      exit.output = String.join (rs.map fun x => x.line ++ "\n") ∧
      Text.lines exit.output = (rs.flatMap fun x => Text.broken x.line) ∧
      (Text.lines exit.output).length = rs.length + (rs.map Record.lineFeeds).sum ∧
      (Text.lines exit.output = rs.map Record.line ↔
        ∀ x ∈ rs, ∀ text ∈ x.texts, '\n' ∉ text.toList) ∧
      (∃ one : Record, exit.output = recordList false [one]) ∧
      ∀ names, Reader.Titled t s₁ names → ∀ x ∈ rs,
        x.data.map Prod.fst = names.eraseDups.filter (· ∉ Record.unnamed) ∧
          ∀ e ∈ x.data, '\n' ∉ e.1.toList := by
  obtain ⟨exit, last, performed, code, output⟩ :=
    run_perform_listing accepted command settings opened found read
  obtain ⟨one, same⟩ := exists_one_for_all some_record
  refine ⟨exit, last, performed, code, ?_, ?_, ?_, ?_, ⟨one, output.trans same.symm⟩, ?_⟩
  · rw [output, recordList_eq_join some_record, List.map_map]
    rfl
  · rw [output, lines_recordList some_record]
  · rw [output, length_lines_recordList some_record]
  · rw [output, lines_eq_map_line_iff some_record]
  · intro names titled x hx
    obtain ⟨conforms, columns⟩ := Reader.columns_of_titled titled read
    have named : x.data.map Prod.fst = names.eraseDups.filter (· ∉ Record.unnamed) := by
      rw [← columns x hx, Record.columns, List.filter_map]
      rfl
    refine ⟨named, fun e he => ?_⟩
    have among : e.1 ∈ x.data.map Prod.fst := List.mem_map_of_mem he
    rw [named] at among
    have known : e.1 ∈ names := List.mem_eraseDups.mp (List.mem_of_mem_filter among)
    exact Catalog.lineFeed_notMem_of_isPlain (conforms.plain e.1 known)

/-! ### Listings of text data -/

/-- A row of text data of user 7, written on 1 May 2024. -/
def textRow (id data : String) (metadata : Option String) (deleted : Bool) : List Cell :=
  [some (Wire.textBytes id), some [0, 0, 0, 7], some (Wire.textBytes data),
    metadata.map Wire.textBytes, some [0, 2, 186, 96, 81, 122, 8, 0],
    some [if deleted then 1 else 0]]

/-- The record of such a row. -/
def textRecord (id data : String) (metadata : Option String) (deleted : Bool) : Record :=
  ⟨[("id", some id), ("user_id", some "7"), ("data", some data), ("metadata", metadata),
    ("updated_at", some "2024-05-01T10:00:00.000000Z"),
    ("deleted", some (if deleted then "true" else "false"))], by simp⟩

/-- The columns of text data, as the catalog lists them. -/
def textColumns : List String := ["id", "user_id", "data", "metadata", "updated_at", "deleted"]

/-- The answer with rows of text data. -/
def textAnswer (rows : List (List Cell)) : Answer :=
  .rows (List.zipWith ColumnInfo.mk textColumns
    ["TEXT", "INT4", "TEXT", "TEXT", "TIMESTAMPTZ", "BOOL"]) rows

/-- The session before a listing of text data, of a user whose id is 7. -/
def textSession (rows : List (List Cell)) : Session where
  pool := { reachable := false }
  replies :=
    [{ answer := .rows [⟨"id", "INT4"⟩] [[some [0, 0, 0, 7]]] },
      { answer := .rows [⟨"column_name", "TEXT"⟩]
          (textColumns.map fun n => [some (Wire.textBytes n)]) },
      { answer := textAnswer rows }]

/-- The surroundings with a store. -/
def textSurroundings : Surroundings := { network := [("db", true)] }

/-- The arguments of a listing of text data. -/
def textArguments : List String :=
  ["records", "list", "TextData", "--user", "ann", "--include-deleted", "--database-url", "db"]

/-- The request that the arguments make. -/
def textRequest : Request := ⟨false, some "db", .listRecords .textData "ann" none true false⟩

theorem readArguments_textArguments : readArguments textArguments = .ok textRequest := rfl

theorem load_textRequest :
    ({} : Config.Sources).load textRequest.databaseUrl = .ok { databaseUrl := "db" } := rfl

/-- The steps of a listing come to the records of the rows. -/
theorem exists_listing {rows : List (List Cell)} {rs : List Record}
    (decoded : Row.toRecords (Session.rowsOf (textAnswer rows)) = .ok rs) : ∃ s s₁ s₂ user,
      (Lifecycle.openConfigured textSurroundings { databaseUrl := "db" }).run (textSession rows) =
          (.ok (), s) ∧
        (Accounts.userId {} "ann").run s = (.ok user, s₁) ∧
        (Engine.readAll {} .textData user none true).run s₁ = (.ok rs, s₂) ∧
        ((∀ row ∈ rows, row.length = 6) → Reader.Titled .textData s₁ textColumns) := by
  let s : Session :=
    { textSession rows with pool := { reachable := true }, log := [.migration 1, .migration 2] }
  let s₁ : Session :=
    { s with replies := s.replies.tail, log := s.log ++ [.query (Query.userId "ann")] }
  let user : UserId := ⟨7, by decide⟩
  have conforms : Catalog.Conforms textColumns := Catalog.check_eq_ok_iff.mp (by decide)
  have listed : Session.Listed {} s₁ textColumns 0 :=
    ⟨_, ⟨⟨rfl, rfl⟩, ⟨0, rfl, rfl, rfl⟩, rfl, nofun, nofun⟩, rfl⟩
  have heard : Session.Heard {} ((Reader.records .textData).askedColumns s₁ 0)
      (textAnswer rows) 0 :=
    ⟨⟨rfl, rfl⟩, ⟨0, rfl, rfl, rfl⟩, rfl, nofun, nofun⟩
  have delivered : (Reader.records .textData).Delivered {} s₁ (Session.rowsOf (textAnswer rows)) :=
    ⟨_, 0, _, 0, listed, conforms, rfl, heard, rfl⟩
  have given := (Reader.run_of_delivered delivered user none true).trans
    (Reader.mapError_eq_ok_iff.mpr decoded)
  refine ⟨s, s₁, _, user, rfl, rfl, Prod.ext given rfl, fun filled => ⟨0, _, 0, listed, heard, ?_⟩⟩
  refine List.forall_mem_map.mpr fun row hr => ?_
  match row, filled row hr with
  | [_, _, _, _, _, _], _ => rfl

/-- Two records without line feeds, of which the second is deleted and has an empty text. -/
theorem listing_breaks_at_line_feeds_of_two :
    let rows := [textRow "e1" "a" none false, textRow "e2" "" (some "m") true]
    let rs := [textRecord "e1" "a" none false, textRecord "e2" "" (some "m") true]
    ∃ exit last, (perform textSurroundings {} textArguments).run (textSession rows) =
        (.ok exit, last) ∧
      exit.code = 0 ∧
      Text.lines exit.output = ["e1  2024-05-01T10:00:00.000000Z  data=a  metadata=NULL",
        "e2  2024-05-01T10:00:00.000000Z  [deleted]  data=  metadata=m"] ∧
      ∀ r ∈ rs, r.data.map Prod.fst = ["data", "metadata"] := by
  intro rows rs
  have decoded : Row.toRecords (Session.rowsOf (textAnswer rows)) = .ok rs := rfl
  obtain ⟨s, s₁, s₂, user, opened, found, read, titled⟩ := exists_listing decoded
  obtain ⟨exit, last, performed, code, -, -, -, whole, -, columns⟩ :=
    listing_breaks_at_line_feeds readArguments_textArguments rfl load_textRequest opened found read
      (by simp [rs])
  have named := columns textColumns (titled (by decide))
  exact ⟨exit, last, performed, code, (whole.mpr (by decide)).trans (by decide),
    fun r hr => (named r hr).1.trans (by decide)⟩

/-- One record whose metadata go on, after a line feed, like the line of another record: its listing
has two lines, and is the listing of two records. -/
theorem listing_of_one_record_like_two :
    let one := [textRow "e1" "a"
      (some "m\ne2  2024-05-01T10:00:00.000000Z  data=b  metadata=n") false]
    let two := [textRow "e1" "a" (some "m") false, textRow "e2" "b" (some "n") false]
    let lists (rows : List (List Cell)) (rs : List Record) (output : String) : Prop :=
      ∃ s s₁ s₂ user exit last,
        (Lifecycle.openConfigured textSurroundings { databaseUrl := "db" }).run (textSession rows) =
          (.ok (), s) ∧
        (Accounts.userId {} "ann").run s = (.ok user, s₁) ∧
        (Engine.readAll {} .textData user none true).run s₁ = (.ok rs, s₂) ∧
        (perform textSurroundings {} textArguments).run (textSession rows) = (.ok exit, last) ∧
        exit.output = output
    ∃ x y z output, lists one [x] output ∧ lists two [y, z] output ∧
      Text.lines output = ["e1  2024-05-01T10:00:00.000000Z  data=a  metadata=m",
        "e2  2024-05-01T10:00:00.000000Z  data=b  metadata=n"] := by
  intro one two lists
  have printed {rows : List (List Cell)} {rs : List Record}
      (decoded : Row.toRecords (Session.rowsOf (textAnswer rows)) = .ok rs) :
      lists rows rs (recordList false rs) := by
    obtain ⟨s, s₁, s₂, user, opened, found, read, -⟩ := exists_listing decoded
    obtain ⟨exit, last, performed, -, output⟩ :=
      run_perform_listing readArguments_textArguments rfl load_textRequest opened found read
    exact ⟨s, s₁, s₂, user, exit, last, opened, found, read, performed, output⟩
  let x := textRecord "e1" "a" (some "m\ne2  2024-05-01T10:00:00.000000Z  data=b  metadata=n") false
  let y := textRecord "e1" "a" (some "m") false
  let z := textRecord "e2" "b" (some "n") false
  have alike : recordList false [x] = recordList false [y, z] := by decide
  have lines : Text.lines (recordList false [y, z]) = [y.line, z.line] :=
    (lines_eq_map_line_iff (by simp)).mpr (by decide)
  have decoded : Row.toRecords (Session.rowsOf (textAnswer one)) = .ok [x] := rfl
  exact ⟨x, y, z, _, alike ▸ printed decoded, printed rfl, lines.trans (by decide)⟩

end Cli
end RecordSync
