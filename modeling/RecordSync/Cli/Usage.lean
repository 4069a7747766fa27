import RecordSync.Cli.Grammar
import RecordSync.Cli.Terminal

/-!
# Misuse of the command line

A message about misuse marks the words that it quotes by a colour, and ends with a hint. It is
written without terminal control, whether that is its own or in what it quotes.

Key definitions: `Cli.UsageError`, `Cli.UsageError.message`, `Cli.UsageError.text`.
-/
namespace RecordSync
namespace Cli

/-- Why the command line is no request. -/
inductive UsageError where
  /-- A word that no one takes. -/
  | unexpected (word : String)
  /-- A word that leads nowhere from a group. -/
  | unknownWord (word : String)
  | invalidValue (p : Param) (value reason : String)
  | missingValue (p : Param)
  | needlessValue (f : Flag) (value : String)
  | repeatedFlag (f : Flag)
  | repeatedOption (p : Param)
  | missingArguments (missing : List Param)
  /-- A group without a word, though some option is given. -/
  | missingWord (g : Group)
  /-- A group by itself. -/
  | bare (g : Group)
  deriving DecidableEq, Repr

namespace UsageError

/-- A word as a message quotes it. -/
def quoted (word : String) : String := "'" ++ Terminal.marked word ++ "'"

/-- What is said of an argument that is given twice. -/
def repeatedText (argument : String) : String :=
  "error: the argument " ++ quoted argument ++ " cannot be used multiple times"

/-- What is wrong. A group by itself is described. -/
def fault : UsageError → String
  | .unexpected word => "error: unexpected argument " ++ quoted word ++ " found"
  | .unknownWord word => "error: unrecognized subcommand " ++ quoted word
  | .invalidValue p value reason =>
    "error: invalid value " ++ quoted value ++ " for " ++ quoted p.text ++ ": " ++ reason
  | .missingValue p =>
    "error: a value is required for " ++ quoted p.text ++ " but none was supplied"
  | .needlessValue f value =>
    "error: unexpected value " ++ quoted value ++ " for " ++ quoted f.text ++
      " found; no more were expected"
  | .repeatedFlag f => repeatedText f.text
  | .repeatedOption p => repeatedText p.text
  | .missingArguments missing =>
    "error: the following required arguments were not provided:" ++
      String.join (missing.map fun p => "\n  " ++ Terminal.marked p.text)
  | .missingWord g =>
    "error: " ++ quoted g.path ++ " requires a subcommand but one was not provided"
  | .bare g => g.description

/-- The hint at the end of a message. -/
def hint : String := "\n\nFor more information, try " ++ quoted Flag.help.text ++ ".\n"

/-- The message about the misuse, with its colours. -/
def message (e : UsageError) : String :=
  match e with
  | .bare _ => e.fault ++ "\n"
  | e => e.fault ++ hint

/-- The message about the misuse, as it is written. -/
def text (e : UsageError) : String := Terminal.plain e.message

end UsageError
end Cli
end RecordSync
