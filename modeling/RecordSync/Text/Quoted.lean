/-!
# Quoted identifiers

An identifier is written between double quotes, with a quote inside it written twice. The lexer
reads one such identifier from the front of a text: it ends at the first quote that is not doubled.

Key definitions: `Quoted.quote`, `Quoted.lex?`.
Key theorems: `Quoted.lexBody?_body`.
-/
namespace RecordSync
namespace Quoted

/-- The characters of an identifier, each quote doubled. -/
def body : List Char → List Char
  | [] => []
  | c :: cs => if c = '\x22' then '\x22' :: '\x22' :: body cs else c :: body cs

/-- The identifier between double quotes. -/
def quoteChars (name : List Char) : List Char := '\x22' :: (body name ++ ['\x22'])

/-- The identifier between double quotes, as text. -/
def quote (name : String) : String := String.ofList (quoteChars name.toList)

/-- Reads the rest of an identifier whose opening quote is gone, up to its closing quote. -/
def lexBody? : List Char → Option (List Char × List Char)
  | [] => none
  | '\x22' :: '\x22' :: cs => (lexBody? cs).map fun r => ('\x22' :: r.1, r.2)
  | c :: cs =>
    if c = '\x22' then some ([], cs) else (lexBody? cs).map fun r => (c :: r.1, r.2)

/-- Reads one quoted identifier from the front of a text; gives the identifier and what follows. -/
def lex? : List Char → Option (List Char × List Char)
  | c :: cs => if c = '\x22' then lexBody? cs else none
  | [] => none

/-- The lexer undoes the doubling, before any text that does not open with a quote. -/
theorem lexBody?_body (name rest : List Char) (h : rest.head? ≠ some '\x22') :
    lexBody? (body name ++ '\x22' :: rest) = some (name, rest) := by
  induction name with
  | nil =>
    cases rest with
    | nil => rfl
    | cons d ds =>
      have hd : d ≠ '\x22' := by simpa using h
      simp [body, lexBody?, hd]
  | cons c cs ih => by_cases hc : c = '\x22' <;> simp [body, lexBody?, hc, ih]

end Quoted
end RecordSync
