import RecordSync.Json.Printer
import RecordSync.Record
import RecordSync.Table

/-!
# What commands print

Records are listed one after the other with their data columns, or printed as JSON. A user is shown
without the password hash.

Key definitions: `Cli.recordLine`, `Cli.recordList`, `Cli.userText`.
-/
namespace RecordSync
namespace Cli

/-- Whether a column is one that every table has. -/
def isConventional (column : String) : Bool :=
  ConventionColumn.all.any fun c => c.name == column

/-- The part of a record's line that shows a column. -/
def columnText (e : String × Option String) : String :=
  if isConventional e.1 then "" else "  " ++ e.1 ++ "=" ++ e.2.getD "NULL"

/-- A record in one line: its id, when it was written, whether it is deleted, and its data. -/
def recordLine (r : Record) : String :=
  r.id?.getD "-" ++ "  " ++ (r.get? "updated_at").getD "-" ++
    (if r.isDeleted then "  [deleted]" else "") ++ String.join (r.entries.map columnText)

/-- Records as JSON. -/
def recordsJson (rs : List Record) : Json := .arr (rs.map Record.toJson)

/-- A text as a line. -/
def line (s : String) : String := s ++ "\n"

/-- A list of records. -/
def recordList (json : Bool) (rs : List Record) : String :=
  if json then line (recordsJson rs).pretty
  else if rs.isEmpty then line "no records"
  else String.join (rs.map fun r => line (recordLine r))

/-- A user. -/
def userText (json : Bool) (u : User) : String :=
  if json then line u.toJson.pretty
  else
    line ("id:       " ++ u.id.text) ++ line ("username: " ++ u.username) ++
      line ("created:  " ++ Rfc3339.shortestWith "+00:00".toList u.createdAt)

end Cli
end RecordSync
