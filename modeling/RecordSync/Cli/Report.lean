import RecordSync.Failure

/-!
# Reports of failures

A report says what could not be done and then the chain of causes, each on lines of its own. A
single cause is indented by four; of several, each has its number, and its further lines start below
its first.

Key definitions: `Cli.Report`, `Cli.Report.text`.
-/
namespace RecordSync
namespace Cli

/-- What could not be done, and the causes, nearest first. -/
structure Report where
  heading : String
  causes : List String := []
  deriving DecidableEq, Repr

namespace Report

/-- The report of what an error of the store has prevented. -/
def ofStore (heading : String) (e : StoreError) : Report := ⟨heading, e.text :: e.causes⟩

/-- Spaces. -/
def spaces (n : Nat) : List Char := List.replicate n ' '

/-- The text with its lines but the first indented. -/
def hang (margin : Nat) (s : String) : List Char :=
  s.toList.flatMap fun c => if c = '\n' then '\n' :: spaces margin else [c]

/-- The mark of a numbered cause, seven wide. -/
def mark (n : Nat) : List Char :=
  let digits := Decimal.digits n
  spaces (5 - digits.length) ++ digits ++ [':', ' ']

/-- Causes, each on a new line, numbered from a given number on. -/
def numbered : Nat → List String → List Char
  | _, [] => []
  | n, cause :: causes => '\n' :: (mark n ++ hang 7 cause) ++ numbered (n + 1) causes

/-- The causes under their title. -/
def causeText : List String → List Char
  | [] => []
  | [cause] => "\n\nCaused by:\n".toList ++ spaces 4 ++ hang 4 cause
  | causes => "\n\nCaused by:".toList ++ numbered 0 causes

/-- The text of a report. -/
def text (r : Report) : String :=
  "Error: " ++ r.heading ++ String.ofList (causeText r.causes)

end Report
end Cli
end RecordSync
