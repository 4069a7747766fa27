/-!
# Letter case of ASCII

Table names, settings and reserved columns are compared without regard to the case of the letters
A to Z. No other letter has a case here: the Kelvin sign is not a `k`.

Key definitions: `Text.lower`, `Text.sameLetters`.
-/
namespace RecordSync
namespace Text

/-- The text with its letters A to Z in lower case. -/
def lower (s : String) : String := String.ofList (s.toList.map Char.toLower)

/-- Whether two texts differ at most in the case of ASCII letters. -/
def sameLetters (a b : String) : Bool :=
  a.toList.map Char.toLower == b.toList.map Char.toLower

theorem sameLetters_iff {a b : String} : sameLetters a b = true ↔ lower a = lower b := by
  simp [sameLetters, lower, String.ofList_inj]

theorem sameLetters_self (a : String) : sameLetters a a = true := by simp [sameLetters]

end Text
end RecordSync
