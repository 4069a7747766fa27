/-!
# Whole numbers in decimal

Numbers are written with no leading zero and no plus sign. They are read with any number of leading
zeros, ASCII digits only, and a sign in front where the reader allows one; a value beyond the
reader's bounds is no number, so nothing wraps.

Key definitions: `Decimal.digits`, `Decimal.padded`, `Decimal.value?`, `Decimal.readUnsigned?`,
`Decimal.readSigned?`.
Key theorems: `Decimal.value?_digits`.
-/
namespace RecordSync
namespace Decimal

/-- The value of an ASCII digit. -/
def digit? (c : Char) : Option Nat :=
  if '0' ≤ c ∧ c ≤ '9' then some (c.toNat - '0'.toNat) else none

/-- Whether a character is an ASCII digit. -/
def isDigit (c : Char) : Bool := (digit? c).isSome

/-- The value of digits that follow digits of value `high`; nothing if a character is no digit. -/
def valueFrom? (high : Nat) : List Char → Option Nat
  | [] => some high
  | c :: cs => (digit? c).bind fun d => valueFrom? (10 * high + d) cs

/-- The value of one or more digits. -/
def value? : List Char → Option Nat
  | [] => none
  | c :: cs => valueFrom? 0 (c :: cs)

/-- The digits of a number, most significant first. -/
def digits (n : Nat) : List Char := Nat.toDigits 10 n

/-- The digits of a number, with zeros in front up to a width. -/
def padded (width n : Nat) : List Char :=
  List.replicate (width - (digits n).length) '0' ++ digits n

/-- A number as text. -/
def writeNat (n : Nat) : String := String.ofList (digits n)

/-- A whole number as text, with a minus sign if it is negative. -/
def write : Int → String
  | .ofNat n => writeNat n
  | .negSucc n => String.ofList ('-' :: digits (n + 1))

/-- Reads an optional plus sign and digits, of value at most `largest`. -/
def readUnsigned? (largest : Nat) (s : String) : Option Nat :=
  let read := match s.toList with
    | '+' :: cs => value? cs
    | cs => value? cs
  read.filter (· ≤ largest)

/-- Reads an optional sign and digits, of value from `least` to `largest`. -/
def readSigned? (least largest : Int) (s : String) : Option Int :=
  let read : Option Int := match s.toList with
    | '+' :: cs => (value? cs).map fun n => (n : Int)
    | '-' :: cs => (value? cs).map fun n => -(n : Int)
    | cs => (value? cs).map fun n => (n : Int)
  read.filter fun n => least ≤ n ∧ n ≤ largest

/-! ### Reading back what is written -/

theorem digit?_digitChar {d : Nat} (h : d < 10) : digit? (Nat.digitChar d) = some d := by
  have all : ∀ e ∈ List.range 10, digit? (Nat.digitChar e) = some e := by decide
  exact all d (List.mem_range.mpr h)

theorem valueFrom?_append (high : Nat) (a b : List Char) :
    valueFrom? high (a ++ b) = (valueFrom? high a).bind fun m => valueFrom? m b := by
  induction a generalizing high with
  | nil => rfl
  | cons c a ih =>
    simp only [List.cons_append, valueFrom?]
    cases digit? c <;> simp [ih]

theorem digits_of_lt {n : Nat} (h : n < 10) : digits n = [Nat.digitChar n] :=
  Nat.toDigits_of_lt_base h

/-- The last digit of a number stands after the digits of the rest. -/
theorem digits_of_le {n : Nat} (h : 10 ≤ n) :
    digits n = digits (n / 10) ++ [Nat.digitChar (n % 10)] := by
  have split := Nat.toDigits_append_toDigits (b := 10) (n := n / 10) (d := n % 10) (by decide)
    (by omega) (by omega)
  rw [Nat.toDigits_of_lt_base (by omega : n % 10 < 10)] at split
  rw [digits, digits, split]
  congr 1
  omega

theorem valueFrom?_digits (n : Nat) : valueFrom? 0 (digits n) = some n := by
  induction n using Nat.strongRecOn with
  | ind n ih =>
    by_cases h : n < 10
    · simp [digits_of_lt h, valueFrom?, digit?_digitChar h]
    · rw [digits_of_le (by omega), valueFrom?_append, ih (n / 10) (by omega)]
      simp [valueFrom?, digit?_digitChar (by omega : n % 10 < 10)]
      omega

theorem digits_ne_nil (n : Nat) : digits n ≠ [] := by
  simp [digits, Nat.toDigits_ne_nil]

/-- The digits of a number read back as the number. -/
theorem value?_digits (n : Nat) : value? (digits n) = some n := by
  have h := valueFrom?_digits n
  cases hd : digits n with
  | nil => exact absurd hd (digits_ne_nil n)
  | cons c cs => rw [hd] at h; exact h

end Decimal
end RecordSync
