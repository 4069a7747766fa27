import Mathlib
import RecordSync.Text.Decimal

/-!
# Digits

The digits of a number are no more than its size allows, and start with a zero only if they are that
zero. Zeros in front bring them to a width and change nothing about the value; zeros behind multiply
it by ten. What is read from digits is the number that they stand for by their places.

Key definitions: `Decimal.AllDigits`, `Decimal.numeral`, `Decimal.Unsigned`.
Key theorems: `Decimal.length_padded`, `Decimal.valueFrom?_padded`, `Decimal.valueFrom?_zeros`,
`Decimal.isDigit_of_valueFrom?`, `Decimal.head?_digits`, `Decimal.valueFrom?_eq_some_iff`,
`Decimal.readUnsigned?_eq_some_iff`.
-/
namespace RecordSync
namespace Decimal

theorem length_digits_le {width n : Nat} (hw : 0 < width) (h : n < 10 ^ width) :
    (digits n).length ≤ width :=
  (Nat.length_toDigits_le_iff (by decide) hw).mpr h

theorem length_padded {width n : Nat} (hw : 0 < width) (h : n < 10 ^ width) :
    (padded width n).length = width := by
  have := length_digits_le hw h
  rw [padded, List.length_append, List.length_replicate]
  omega

theorem le_length_padded (width n : Nat) : width ≤ (padded width n).length := by
  rw [padded, List.length_append, List.length_replicate]
  omega

theorem valueFrom?_replicate (k : Nat) (cs : List Char) :
    valueFrom? 0 (List.replicate k '0' ++ cs) = valueFrom? 0 cs := by
  induction k with
  | zero => rfl
  | succ k ih => exact ih

theorem valueFrom?_padded (width n : Nat) : valueFrom? 0 (padded width n) = some n := by
  rw [padded, valueFrom?_replicate, valueFrom?_digits]

/-- Zeros after a number multiply it by powers of ten. -/
theorem valueFrom?_zeros (high k : Nat) :
    valueFrom? high (List.replicate k '0') = some (10 ^ k * high) := by
  induction k generalizing high with
  | zero => rw [List.replicate_zero, valueFrom?, Nat.pow_zero, Nat.one_mul]
  | succ k ih =>
    have zero : digit? '0' = some 0 := by decide
    rw [List.replicate_succ, valueFrom?, zero, Option.bind_some, ih, Nat.add_zero, Nat.pow_succ,
      Nat.mul_assoc]

/-- What has a value is made of digits. -/
theorem isDigit_of_valueFrom? {high m : Nat} {cs : List Char} (h : valueFrom? high cs = some m) :
    ∀ c ∈ cs, isDigit c = true := by
  induction cs generalizing high with
  | nil => exact fun c hc => absurd hc List.not_mem_nil
  | cons c cs ih =>
    rw [valueFrom?] at h
    cases hd : digit? c with
    | none => simp [hd] at h
    | some d =>
      intro x hx
      rcases List.mem_cons.mp hx with rfl | hx
      · simp [isDigit, hd]
      · exact ih (by simpa [hd] using h) x hx

theorem isDigit_padded (width n : Nat) : ∀ c ∈ padded width n, isDigit c = true :=
  isDigit_of_valueFrom? (valueFrom?_padded width n)

/-- Only zero starts with a zero. -/
theorem head?_digits {n : Nat} (h : n ≠ 0) : (digits n).head? ≠ some '0' := by
  induction n using Nat.strongRecOn with
  | ind n ih =>
    by_cases small : n < 10
    · have all : ∀ d ∈ List.range 10, d ≠ 0 → Nat.digitChar d ≠ '0' := by decide
      rw [digits_of_lt small, List.head?_cons, ne_eq, Option.some.injEq]
      exact all n (List.mem_range.mpr small) h
    · rw [digits_of_le (by omega), List.head?_append_of_ne_nil _ (digits_ne_nil _)]
      exact ih (n / 10) (by omega) (by omega)

/-! ### What digits stand for -/

/-- The characters are ASCII digits. -/
def AllDigits (cs : List Char) : Prop := ∀ c ∈ cs, '0' ≤ c ∧ c ≤ '9'

/-- The number that digits stand for, the last one in the place of ones. -/
def numeral (cs : List Char) : Nat :=
  Nat.ofDigits 10 (cs.reverse.map fun c => c.toNat - '0'.toNat)

theorem numeral_cons (c : Char) (cs : List Char) :
    numeral (c :: cs) = (c.toNat - '0'.toNat) * 10 ^ cs.length + numeral cs := by
  simp [numeral, Nat.ofDigits_append]
  ring

theorem numeral_lt {cs : List Char} (digits : AllDigits cs) : numeral cs < 10 ^ cs.length := by
  induction cs with
  | nil => decide
  | cons c cs ih =>
    have lower := ih fun x hx => digits x (List.mem_cons_of_mem c hx)
    have digit : c.toNat - '0'.toNat ≤ 9 := by
      have : c.toNat ≤ '9'.toNat := (digits c List.mem_cons_self).2
      exact Nat.sub_le_sub_right this '0'.toNat
    have higher := Nat.mul_le_mul_right (10 ^ cs.length) digit
    rw [numeral_cons, List.length_cons, Nat.pow_succ]
    omega

theorem digit?_eq_some_iff {c : Char} {d : Nat} :
    digit? c = some d ↔ ('0' ≤ c ∧ c ≤ '9') ∧ d = c.toNat - '0'.toNat := by
  unfold digit?
  split <;> simp_all [eq_comm]

theorem isDigit_iff {c : Char} : isDigit c = true ↔ '0' ≤ c ∧ c ≤ '9' := by
  unfold isDigit digit?
  split <;> simp_all

/-- Digits that follow digits of value `high` move these to higher places. -/
theorem valueFrom?_eq_some_iff {high n : Nat} {cs : List Char} :
    valueFrom? high cs = some n ↔ AllDigits cs ∧ n = high * 10 ^ cs.length + numeral cs := by
  induction cs generalizing high with
  | nil => simp [valueFrom?, AllDigits, numeral, eq_comm]
  | cons c cs ih =>
    have split : AllDigits (c :: cs) ↔ ('0' ≤ c ∧ c ≤ '9') ∧ AllDigits cs := List.forall_mem_cons
    rw [valueFrom?, Option.bind_eq_some_iff, split, numeral_cons, List.length_cons, pow_succ]
    constructor
    · rintro ⟨d, hd, hn⟩
      obtain ⟨digit, rfl⟩ := digit?_eq_some_iff.mp hd
      obtain ⟨digits, rfl⟩ := ih.mp hn
      exact ⟨⟨digit, digits⟩, by ring⟩
    · rintro ⟨⟨digit, digits⟩, rfl⟩
      exact ⟨_, digit?_eq_some_iff.mpr ⟨digit, rfl⟩, ih.mpr ⟨digits, by ring⟩⟩

theorem allDigits_padded (width n : Nat) : AllDigits (padded width n) :=
  (valueFrom?_eq_some_iff.mp (valueFrom?_padded width n)).1

theorem numeral_padded (width n : Nat) : numeral (padded width n) = n := by
  have value := (valueFrom?_eq_some_iff.mp (valueFrom?_padded width n)).2
  omega

theorem value?_eq_some_iff {n : Nat} {cs : List Char} :
    value? cs = some n ↔ cs ≠ [] ∧ AllDigits cs ∧ n = numeral cs := by
  cases cs with
  | nil => simp [value?]
  | cons c cs => simp [value?, valueFrom?_eq_some_iff]

/-- The text is one or more digits of a number, perhaps with a plus sign in front. -/
def Unsigned (s : String) (n : Nat) : Prop :=
  ∃ ds, (s.toList = ds ∨ s.toList = '+' :: ds) ∧ ds ≠ [] ∧ AllDigits ds ∧ n = numeral ds

/-- Behind a plus sign stand the digits. -/
theorem unsigned_iff_of_plus {n : Nat} {s : String} {cs : List Char} (plus : s.toList = '+' :: cs) :
    Unsigned s n ↔ value? cs = some n := by
  have sign : ¬('0' ≤ '+' ∧ '+' ≤ '9') := by decide
  rw [Unsigned, plus, value?_eq_some_iff]
  constructor
  · rintro ⟨ds, rfl | h, given, digits, rfl⟩
    · exact absurd (digits '+' List.mem_cons_self) sign
    · obtain rfl := (List.cons.inj h).2
      exact ⟨given, digits, rfl⟩
  · exact fun h => ⟨cs, .inr rfl, h⟩

theorem unsigned_iff_of_no_plus {n : Nat} {s : String} (bare : ∀ cs, s.toList ≠ '+' :: cs) :
    Unsigned s n ↔ value? s.toList = some n := by
  rw [Unsigned, value?_eq_some_iff]
  constructor
  · rintro ⟨ds, rfl | h, given⟩
    · exact given
    · exact absurd h (bare ds)
  · exact fun h => ⟨_, .inl rfl, h⟩

theorem readUnsigned?_eq_some_iff {largest n : Nat} {s : String} :
    readUnsigned? largest s = some n ↔ Unsigned s n ∧ n ≤ largest := by
  simp only [readUnsigned?, Option.filter_eq_some_iff, decide_eq_true_eq]
  refine and_congr_left fun _ => ?_
  split
  · rename_i cs plus
    rw [unsigned_iff_of_plus plus]
  · rename_i bare
    rw [unsigned_iff_of_no_plus bare]

/-- The text is one or more digits of a number, perhaps with a sign in front. -/
inductive Signed (s : String) : Int → Prop
  | unsigned {n : Nat} (digits : Unsigned s n) : Signed s n
  | negative {ds : List Char} (text : s.toList = '-' :: ds) (given : ds ≠ [])
    (digits : AllDigits ds) : Signed s (-(numeral ds : Int))

/-- Behind a minus sign stand the digits of the number without its sign. -/
theorem signed_iff_of_minus {n : Int} {s : String} {cs : List Char} (minus : s.toList = '-' :: cs) :
    Signed s n ↔ ∃ m, value? cs = some m ∧ -(m : Int) = n := by
  have sign : ¬('0' ≤ '-' ∧ '-' ≤ '9') := by decide
  simp only [value?_eq_some_iff]
  constructor
  · intro h
    cases h with
    | unsigned unsigned =>
      obtain ⟨ds, h | h, -, digits, -⟩ := unsigned
      · exact absurd (digits '-' (h ▸ minus ▸ List.mem_cons_self)) sign
      · rw [minus] at h
        cases h
    | negative text given digits =>
      obtain rfl := (List.cons.inj (minus.symm.trans text)).2
      exact ⟨_, ⟨given, digits, rfl⟩, rfl⟩
  · rintro ⟨m, ⟨given, digits, rfl⟩, rfl⟩
    exact .negative minus given digits

theorem signed_iff_of_no_minus {n : Int} {s : String} (bare : ∀ cs, s.toList ≠ '-' :: cs) :
    Signed s n ↔ ∃ m : Nat, Unsigned s m ∧ (m : Int) = n := by
  constructor
  · intro h
    cases h with
    | unsigned unsigned => exact ⟨_, unsigned, rfl⟩
    | negative text => exact absurd text (bare _)
  · rintro ⟨m, unsigned, rfl⟩
    exact .unsigned unsigned

theorem readSigned?_eq_some_iff {least largest n : Int} {s : String} :
    readSigned? least largest s = some n ↔ Signed s n ∧ least ≤ n ∧ n ≤ largest := by
  have counted (cs : List Char) (f : Int → Int) :
      ((value? cs >>= fun m => pure (m : Int)).map f = some n) ↔
        ∃ m : Nat, value? cs = some m ∧ f m = n := by
    cases value? cs <;> simp
  simp only [readSigned?, Option.filter_eq_some_iff, decide_eq_true_eq]
  refine and_congr_left fun _ => ?_
  split
  · rename_i cs plus
    have bare (ds : List Char) : s.toList ≠ '-' :: ds := by simp [plus]
    rw [counted cs fun m => m, signed_iff_of_no_minus bare]
    simp only [unsigned_iff_of_plus plus]
  · rename_i cs minus
    rw [counted cs fun m => -m, signed_iff_of_minus minus]
  · rename_i noPlus noMinus
    rw [counted _ fun m => m, signed_iff_of_no_minus noMinus]
    simp only [unsigned_iff_of_no_plus noPlus]

/-- A text stands for one number at most. -/
theorem Signed.unique {s : String} {n m : Int} (h : Signed s n) (h' : Signed s m) : n = m := by
  have first : readSigned? (min n m) (max n m) s = some n :=
    readSigned?_eq_some_iff.mpr ⟨h, min_le_left n m, le_max_left n m⟩
  rw [readSigned?_eq_some_iff.mpr ⟨h', min_le_right n m, le_max_right n m⟩] at first
  exact (Option.some.inj first).symm

theorem signed_write (n : Int) : Signed (write n) n := by
  have digits (m : Nat) := value?_eq_some_iff.mp (value?_digits m)
  cases n with
  | ofNat n =>
    obtain ⟨given, all, value⟩ := digits n
    exact .unsigned ⟨_, .inl String.toList_ofList, given, all, value⟩
  | negSucc n =>
    obtain ⟨given, all, value⟩ := digits (n + 1)
    have negative := Signed.negative (s := write (.negSucc n)) String.toList_ofList given all
    rwa [← value] at negative

/-- A number as text stands for the number and for nothing else. -/
theorem signed_write_iff {n m : Int} : Signed (write n) m ↔ m = n :=
  ⟨fun h => h.unique (signed_write n), fun h => h ▸ signed_write n⟩

end Decimal
end RecordSync
