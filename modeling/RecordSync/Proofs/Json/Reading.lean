import RecordSync.Json.Parser
import RecordSync.Proofs.Digits
import RecordSync.Proofs.Json.Grammar

/-!
# What is spelled is read

The reader reads every text of the grammar as the value that the text stands for, whatever follows;
only a number has to be followed by something that does not go on with it. So a text is the JSON of
one value at most. The reader's number is a bound on the length of what is read: each part is longer
than what it is made of, and one step of the reader goes from a part to these.

Key definitions: `Json.EndsNumber`, `Json.Reads`, `Json.Readable`.
Key theorems: `Json.readString?_of_spelled`, `Json.readNumber?_of_numeral`, `Json.Spells.readable`,
`Json.Document.parse?`, `Json.Document.unique`.
-/
namespace RecordSync
namespace Json

/-! ### Strings are read -/

theorem readUnits?_quote (cs : List Char) : readUnits? ('\x22' :: cs) = some ([], cs) := by
  rw [readUnits?]

theorem readUnits?_plain {c : Char} (least : 0x20 ≤ c.toNat) (quote : c ≠ '\x22')
    (backslash : c ≠ '\\') (cs : List Char) :
    readUnits? (c :: cs) = (readUnits? cs).map fun r => (c.toNat :: r.1, r.2) := by
  rw [readUnits?]
  · rw [if_neg (Nat.not_lt.mpr least)]
    cases readUnits? cs <;> rfl
  · exact quote
  · intro _ _ _ _ _ h
    exact absurd h backslash
  · intro _ _ h
    exact absurd h backslash

theorem HexDigit.hexValue? {c : Char} {n : Nat} (h : HexDigit c n) :
    Json.hexValue? c = some n := by
  have lower : ∀ d ∈ List.range 16,
      "0123456789abcdef".toList[d]?.bind Json.hexValue? = some d := by decide
  have upper : ∀ d ∈ List.range 16,
      "0123456789ABCDEF".toList[d]?.bind Json.hexValue? = some d := by decide
  have small : n ∈ List.range 16 := by
    rw [List.mem_range]
    rcases h with h | h <;> exact (List.getElem?_eq_some_iff.mp h).1
  rcases h with h | h
  · have value := lower n small
    rwa [h] at value
  · have value := upper n small
    rwa [h] at value

theorem FourHex.hexFrom? {a b c d : Char} {n : Nat} (h : FourHex a b c d n) :
    Json.hexFrom? 0 [a, b, c, d] = some n := by
  obtain ⟨w, x, y, z, ha, hb, hc, hd, rfl⟩ := h
  simp only [Json.hexFrom?, ha.hexValue?, hb.hexValue?, hc.hexValue?, hd.hexValue?,
    Option.bind_some, Option.some.injEq]
  omega

theorem readUnits?_unit {a b c d : Char} {n : Nat} (value : FourHex a b c d n)
    (cs : List Char) : readUnits? ('\\' :: 'u' :: a :: b :: c :: d :: cs) =
      (readUnits? cs).map fun r => (n :: r.1, r.2) := by
  rw [readUnits?, value.hexFrom?]
  cases readUnits? cs <;> rfl

theorem readUnits?_letter {e c : Char} (letter : (e, c) ∈ letters) (cs : List Char) :
    readUnits? ('\\' :: e :: cs) = (readUnits? cs).map fun r => (c.toNat :: r.1, r.2) := by
  have named : unescape? e = some c ∧ e ≠ 'u' := by
    have all : ∀ p ∈ letters, unescape? p.1 = some p.2 ∧ p.1 ≠ 'u' := by decide
    exact all _ letter
  rw [readUnits?]
  · rw [named.1]
    cases readUnits? cs <;> rfl
  · intro _ _ _ _ _ h
    exact absurd h named.2

theorem scalar?_toNat (c : Char) : scalar? c.toNat = some c := by
  have valid : c.toNat.isValidChar := c.valid
  rw [scalar?, dif_pos valid]
  rfl

theorem not_isHigh_toNat (c : Char) : isHigh c.toNat = false := by
  have valid : c.toNat.isValidChar := c.valid
  unfold isHigh
  simp only [Nat.isValidChar] at valid
  by_contra h
  simp at h
  omega

theorem joinUnits?_char (c : Char) (ns : List Nat) :
    joinUnits? (c.toNat :: ns) = (joinUnits? ns).map (c :: ·) := by
  cases ns with
  | nil => simp [joinUnits?, scalar?_toNat]
  | cons m ns =>
    rw [joinUnits?, not_isHigh_toNat, Bool.false_and, if_neg Bool.false_ne_true, scalar?_toNat]
    cases joinUnits? (m :: ns) <;> rfl

theorem joinUnits?_pair {high low : Nat} {c : Char} (high_lt : high < 0x400)
    (low_lt : low < 0x400) (value : c.toNat = 0x10000 + high * 0x400 + low) (ns : List Nat) :
    joinUnits? ((0xD800 + high) :: (0xDC00 + low) :: ns) = (joinUnits? ns).map (c :: ·) := by
  have opens : isHigh (0xD800 + high) = true := by
    simp only [isHigh, Bool.and_eq_true, decide_eq_true_eq]
    omega
  have closes : isLow (0xDC00 + low) = true := by
    simp only [isLow, Bool.and_eq_true, decide_eq_true_eq]
    omega
  rw [joinUnits?, opens, closes, Bool.and_self, if_pos rfl, Nat.add_sub_cancel_left,
    Nat.add_sub_cancel_left, ← value, scalar?_toNat]
  cases joinUnits? ns <;> rfl

theorem exists_readUnits? {cs s : List Char} (h : Spelled cs s) (rest : List Char) :
    ∃ units,
      readUnits? (cs ++ '\x22' :: rest) = some (units, rest) ∧ joinUnits? units = some s := by
  -- A character is one unit, and a surrogate pair is two that are joined to one character.
  induction h with
  | nil => exact ⟨[], readUnits?_quote rest, rfl⟩
  | @plain c cs s least quote backslash more ih =>
    obtain ⟨units, read, join⟩ := ih
    refine ⟨c.toNat :: units, ?_, ?_⟩
    · rw [List.cons_append, readUnits?_plain least quote backslash, read]
      rfl
    · rw [joinUnits?_char, join]
      rfl
  | @letter e c cs s letter more ih =>
    obtain ⟨units, read, join⟩ := ih
    refine ⟨c.toNat :: units, ?_, ?_⟩
    · rw [List.cons_append, List.cons_append, readUnits?_letter letter, read]
      rfl
    · rw [joinUnits?_char, join]
      rfl
  | @unit a b c d x cs s value more ih =>
    obtain ⟨units, read, join⟩ := ih
    refine ⟨x.toNat :: units, ?_, ?_⟩
    · simp only [List.cons_append, readUnits?_unit value, read, Option.map_some]
    · rw [joinUnits?_char, join]
      rfl
  | @pair a b c d a' b' c' d' x high low cs s first high_lt second low_lt value more ih =>
    obtain ⟨units, read, join⟩ := ih
    refine ⟨(0xD800 + high) :: (0xDC00 + low) :: units, ?_, ?_⟩
    · simp only [List.cons_append, readUnits?_unit first, readUnits?_unit second, read,
        Option.map_some]
    · rw [joinUnits?_pair high_lt low_lt value, join]
      rfl

/-- What is spelled between quotes is read. -/
theorem readString?_of_spelled {cs s : List Char} (h : Spelled cs s) (rest : List Char) :
    readString? (cs ++ '\x22' :: rest) = some (String.ofList s, rest) := by
  obtain ⟨units, read, join⟩ := exists_readUnits? h rest
  rw [readString?, read]
  simp only [Option.bind_eq_bind, Option.bind_some, join]

/-! ### Numbers are read -/

/-- What follows a number does not go on with it. -/
def EndsNumber (rest : List Char) : Prop :=
  ∀ c ∈ rest.head?, Decimal.isDigit c = false ∧ c ≠ '.' ∧ isExponentMark c = false

theorem spanDigits_append {ds rest : List Char} (digits : ∀ c ∈ ds, Decimal.isDigit c = true)
    (ends : ∀ c ∈ rest.head?, Decimal.isDigit c = false) :
    spanDigits (ds ++ rest) = (ds, rest) := by
  have front : rest.takeWhile Decimal.isDigit = [] ∧ rest.dropWhile Decimal.isDigit = rest := by
    cases rest with
    | nil => exact ⟨rfl, rfl⟩
    | cons c cs =>
      have no : Decimal.isDigit c = false := ends c rfl
      simp [no]
  rw [spanDigits, List.takeWhile_append_of_pos digits, List.dropWhile_append_of_pos digits,
    front.1, front.2, List.append_nil]

theorem Whole.digits {ds : List Char} {n : Nat} (whole : Whole ds n) : Digits ds := by
  have value := whole.value
  cases ds with
  | nil => cases value
  | cons d ds => exact ⟨List.cons_ne_nil d ds, Decimal.isDigit_of_valueFrom? value⟩

theorem readFraction?_of_fraction {fraction rest : List Char} (h : Fraction fraction)
    (ends : ∀ c ∈ rest.head?, Decimal.isDigit c = false ∧ c ≠ '.') :
    readFraction? (fraction ++ rest) = some (fraction, rest) := by
  cases h with
  | absent =>
    rw [List.nil_append, readFraction?]
    rintro cs rfl
    exact (ends '.' rfl).2 rfl
  | @digits ds digits =>
    rw [List.cons_append, readFraction?, spanDigits_append digits.2 fun c hc => (ends c hc).1]
    cases ds with
    | nil => exact absurd rfl digits.1
    | cons d ds => rfl

theorem readExponent?_of_exponent {es rest : List Char} (h : Exponent es)
    (ends : EndsNumber rest) : readExponent? (es ++ rest) = some (es, rest) := by
  cases h with
  | absent =>
    cases rest with
    | nil => rfl
    | cons c cs => simp [readExponent?, (ends c rfl).2.2]
  | @digits e sign ds mark signs digits =>
    have marks : isExponentMark e = true := by rcases mark with rfl | rfl <;> rfl
    have span := spanDigits_append digits.2 fun c hc => (ends c hc).1
    obtain ⟨d, ds, rfl⟩ := List.exists_cons_of_ne_nil digits.1
    have digit : Decimal.isDigit d = true := digits.2 d List.mem_cons_self
    have unsigned : d ≠ '+' ∧ d ≠ '-' := by
      constructor <;> rintro rfl <;> cases digit
    rw [List.cons_append] at span
    rcases signs with rfl | rfl | rfl
    · simp [readExponent?, marks, unsigned.1, unsigned.2, span]
    · simp only [List.cons_append, List.nil_append, readExponent?, marks, ↓reduceIte, span]
    · simp only [List.cons_append, List.nil_append, readExponent?, marks, ↓reduceIte, span]

/-- What follows the digits of a number's whole part is no digit. -/
theorem head?_fraction {fs es rest : List Char} (fraction : Fraction fs) (exponent : Exponent es)
    (ends : EndsNumber rest) :
    ∀ c ∈ (fs ++ (es ++ rest)).head?, Decimal.isDigit c = false := by
  cases fraction with
  | digits _ =>
    rintro c ⟨⟩
    rfl
  | absent =>
    cases exponent with
    | absent => exact fun c hc => (ends c hc).1
    | digits mark _ _ =>
      rintro c ⟨⟩
      rcases mark with rfl | rfl <;> rfl

theorem head?_exponent {es rest : List Char} (exponent : Exponent es)
    (ends : EndsNumber rest) :
    ∀ c ∈ (es ++ rest).head?, Decimal.isDigit c = false ∧ c ≠ '.' := by
  cases exponent with
  | absent => exact fun c hc => ⟨(ends c hc).1, (ends c hc).2.1⟩
  | digits mark _ _ =>
    rintro c ⟨⟩
    rcases mark with rfl | rfl <;> exact ⟨rfl, by decide⟩

theorem readMagnitude?_eq {ds fs es rest : List Char} {n : Nat} (whole : Whole ds n)
    (fraction : Fraction fs) (exponent : Exponent es) (ends : EndsNumber rest) (negative : Bool) :
    readMagnitude? negative (ds ++ fs ++ es ++ rest) =
      if fs.isEmpty && es.isEmpty && !(negative && n == 0) then
        some (.int (if negative then -(n : Int) else n), rest)
      else some (.real (String.ofList ((if negative then ['-'] else []) ++ ds ++ fs ++ es)),
        rest) := by
  have short : ¬(1 < ds.length ∧ ds.head? = some '0') := by
    rintro ⟨long, zero⟩
    rcases whole.short with one | other
    · omega
    · exact other zero
  rw [List.append_assoc, List.append_assoc, readMagnitude?,
    spanDigits_append whole.digits.2 (head?_fraction fraction exponent ends)]
  simp only [whole.value, short, ↓reduceIte, Option.bind_eq_bind, Option.bind_some,
    readFraction?_of_fraction fraction (head?_exponent exponent ends),
    readExponent?_of_exponent exponent ends]

theorem readNumber?_unsigned {d : Char} (digit : Decimal.isDigit d = true) (cs : List Char) :
    readNumber? (d :: cs) = readMagnitude? false (d :: cs) := by
  rw [readNumber?]
  rintro cs' h
  rw [(List.cons.inj h).1] at digit
  cases digit

theorem readNumber?_of_numeral {cs rest : List Char} {v : Json} (h : Numeral cs v)
    (ends : EndsNumber rest) : readNumber? (cs ++ rest) = some (v, rest) := by
  have unsigned {ds : List Char} (digits : Digits ds) (tail : List Char) :
      readNumber? (ds ++ tail) = readMagnitude? false (ds ++ tail) := by
    obtain ⟨d, ds, rfl⟩ := List.exists_cons_of_ne_nil digits.1
    exact readNumber?_unsigned (digits.2 d List.mem_cons_self) (ds ++ tail)
  cases h with
  | int whole =>
    have read := readMagnitude?_eq whole .absent .absent ends false
    rw [List.append_nil, List.append_nil] at read
    rw [unsigned whole.digits, read]
    rfl
  | @negative ds n whole nonzero =>
    have read := readMagnitude?_eq whole .absent .absent ends true
    rw [List.append_nil, List.append_nil] at read
    rw [List.cons_append, readNumber?, read]
    simp [nonzero]
  | @real sign ds fs es n signs whole fraction exponent spelled =>
    rcases signs with rfl | rfl
    · have inexact : (fs.isEmpty && es.isEmpty && !(false && n == 0)) = false := by
        cases fs <;> cases es <;> simp_all
      have read := readMagnitude?_eq whole fraction exponent ends false
      rw [inexact] at read
      simp only [List.nil_append, List.append_assoc] at read ⊢
      rw [unsigned whole.digits, read]
      rfl
    · have inexact : (fs.isEmpty && es.isEmpty && !(true && n == 0)) = false := by
        cases fs <;> cases es <;> simp_all
      have read := readMagnitude?_eq whole fraction exponent ends true
      rw [inexact] at read
      simp only [List.cons_append, List.nil_append, readNumber?, read]
      rfl

/-! ### Parts and white space -/

theorem skipSpace_append {a : List Char} (blank : Blank a) (cs : List Char) :
    skipSpace (a ++ cs) = skipSpace cs :=
  List.dropWhile_append_of_pos blank

theorem skipSpace_cons {c : Char} (h : isBlank c = false) (cs : List Char) :
    skipSpace (c :: cs) = c :: cs :=
  List.dropWhile_cons_of_neg (Bool.eq_false_iff.mp h)

/-- The reading of a part: what is left of a text after it. -/
def Reads (fuel : Nat) (text : List Char) : Part → List Char → Prop
  | .value v, rest => readValue? fuel text = some (v, rest)
  | .items xs, rest => readItems? fuel text = some (xs, rest)
  | .members ms, rest => readMembersAfter? fuel text = some (ms, rest)
  | .member m, rest => readMember? fuel text = some (m, rest)

theorem reads_blank {a : List Char} (blank : Blank a) {fuel : Nat} {text rest : List Char}
    {p : Part} : Reads fuel (a ++ text) p rest ↔ Reads fuel text p rest := by
  have skip := skipSpace_append blank text
  cases fuel with
  | zero => cases p <;> simp [Reads, readValue?, readItems?, readMembersAfter?, readMember?]
  | succ fuel =>
    cases p <;> simp only [Reads, readValue?, readItems?, readMembersAfter?, readMember?, skip]

theorem reads_skipSpace {fuel : Nat} {text rest : List Char} {p : Part} :
    Reads fuel (skipSpace text) p rest ↔ Reads fuel text p rest := by
  have blank : Blank (text.takeWhile isBlank) := fun c hc => List.mem_takeWhile_imp hc
  have split : text.takeWhile isBlank ++ skipSpace text = text :=
    List.takeWhile_append_dropWhile
  rw [← reads_blank blank, split]

/-! ### One step of the reader -/

/-- The first character of a number. -/
def StartsNumber (c : Char) : Prop := c = '-' ∨ Decimal.isDigit c = true

theorem not_startsNumber {c : Char} (h : c ∈ ['\x22', '[', '\x7b', 'n', 't', 'f', ']']) :
    ¬StartsNumber c := by
  intro starts
  simp only [List.mem_cons, List.not_mem_nil, or_false] at h
  rcases h with rfl | rfl | rfl | rfl | rfl | rfl | rfl <;> rcases starts with h | h <;> cases h

theorem isBlank_of_startsNumber {c : Char} (h : StartsNumber c) : isBlank c = false := by
  by_contra blank
  simp only [isBlank, Bool.not_eq_false, Bool.or_eq_true, beq_iff_eq] at blank
  rcases blank with ((rfl | rfl) | rfl) | rfl <;> rcases h with h | h <;> cases h

theorem Numeral.head {cs : List Char} {v : Json} (h : Numeral cs v) :
    ∃ c tail, cs = c :: tail ∧ StartsNumber c := by
  have front {ds : List Char} (digits : Digits ds) (more : List Char) :
      ∃ c tail, ds ++ more = c :: tail ∧ StartsNumber c := by
    obtain ⟨d, ds, rfl⟩ := List.exists_cons_of_ne_nil digits.1
    exact ⟨d, ds ++ more, rfl, .inr (digits.2 d List.mem_cons_self)⟩
  cases h with
  | int whole => simpa using front whole.digits []
  | negative whole _ => exact ⟨'-', _, rfl, .inl rfl⟩
  | real signs whole _ _ _ =>
    rcases signs with rfl | rfl
    · simpa using front whole.digits _
    · exact ⟨'-', _, rfl, .inl rfl⟩

namespace Reads

variable {fuel : Nat} {cs mid rest tail : List Char} {c : Char} {v x : Json} {xs : List Json}
  {m : String × Json} {ms : List (String × Json)}

theorem emptyArray (skip : skipSpace cs = ']' :: rest) :
    Reads (fuel + 1) ('[' :: cs) (.value (.arr [])) rest := by
  have start : skipSpace ('[' :: cs) = '[' :: cs := skipSpace_cons rfl cs
  simp only [Reads, readValue?, start, skip]

theorem array (skip : skipSpace cs = c :: tail) (goesOn : c ≠ ']')
    (first : Reads fuel cs (.value x) mid) (more : Reads fuel mid (.items xs) rest) :
    Reads (fuel + 1) ('[' :: cs) (.value (.arr (x :: xs))) rest := by
  rw [← reads_skipSpace, skip] at first
  have start : skipSpace ('[' :: cs) = '[' :: cs := skipSpace_cons rfl cs
  simp only [Reads] at first more ⊢
  simp [readValue?, start, skip, goesOn, first, more]

theorem endArray : Reads (fuel + 1) (']' :: rest) (.items []) rest := by
  have start : skipSpace (']' :: rest) = ']' :: rest := skipSpace_cons rfl rest
  simp only [Reads, readItems?, start]

theorem item (first : Reads fuel cs (.value x) mid) (more : Reads fuel mid (.items xs) rest) :
    Reads (fuel + 1) (',' :: cs) (.items (x :: xs)) rest := by
  have start : skipSpace (',' :: cs) = ',' :: cs := skipSpace_cons rfl cs
  simp only [Reads] at first more ⊢
  simp [readItems?, start, first, more]

theorem emptyObject (skip : skipSpace cs = '\x7d' :: rest) :
    Reads (fuel + 1) ('\x7b' :: cs) (.value (.obj [])) rest := by
  have start : skipSpace ('\x7b' :: cs) = '\x7b' :: cs := skipSpace_cons rfl cs
  simp only [Reads, readValue?, start, skip]

theorem object (skip : skipSpace cs = c :: tail) (goesOn : c ≠ '\x7d')
    (first : Reads fuel cs (.member m) mid) (more : Reads fuel mid (.members ms) rest) :
    Reads (fuel + 1) ('\x7b' :: cs) (.value (.obj (m :: ms))) rest := by
  rw [← reads_skipSpace, skip] at first
  have start : skipSpace ('\x7b' :: cs) = '\x7b' :: cs := skipSpace_cons rfl cs
  simp only [Reads] at first more ⊢
  simp [readValue?, start, skip, goesOn, first, more]

theorem endObject : Reads (fuel + 1) ('\x7d' :: rest) (.members []) rest := by
  have start : skipSpace ('\x7d' :: rest) = '\x7d' :: rest := skipSpace_cons rfl rest
  simp only [Reads, readMembersAfter?, start]

theorem members (first : Reads fuel cs (.member m) mid) (more : Reads fuel mid (.members ms) rest) :
    Reads (fuel + 1) (',' :: cs) (.members (m :: ms)) rest := by
  have start : skipSpace (',' :: cs) = ',' :: cs := skipSpace_cons rfl cs
  simp only [Reads] at first more ⊢
  simp [readMembersAfter?, start, first, more]

theorem member {s : List Char} (name : Spelled cs s) (skip : skipSpace mid = ':' :: tail)
    (value : Reads fuel tail (.value v) rest) :
    Reads (fuel + 1) ('\x22' :: (cs ++ '\x22' :: mid)) (.member (String.ofList s, v)) rest := by
  have start : skipSpace ('\x22' :: (cs ++ '\x22' :: mid)) = '\x22' :: (cs ++ '\x22' :: mid) :=
    skipSpace_cons rfl _
  simp only [Reads] at value ⊢
  simp [readMember?, start, readString?_of_spelled name, skip, value]

theorem string {s : List Char} (text : Spelled cs s) :
    Reads (fuel + 1) ('\x22' :: (cs ++ '\x22' :: rest)) (.value (.str (String.ofList s))) rest := by
  have start : skipSpace ('\x22' :: (cs ++ '\x22' :: rest)) = '\x22' :: (cs ++ '\x22' :: rest) :=
    skipSpace_cons rfl _
  simp only [Reads, readValue?, start, readString?_of_spelled text, Option.map_some]

theorem null : Reads (fuel + 1) ("null".toList ++ rest) (.value .null) rest := by
  have start : skipSpace ("null".toList ++ rest) = "null".toList ++ rest := skipSpace_cons rfl _
  simp only [Reads, readValue?, start]
  rfl

theorem bool (b : Bool) :
    Reads (fuel + 1) ((if b then "true" else "false").toList ++ rest) (.value (.bool b)) rest := by
  cases b with
  | true =>
    have start : skipSpace ("true".toList ++ rest) = "true".toList ++ rest := skipSpace_cons rfl _
    simp only [Reads, readValue?, ↓reduceIte, start]
    rfl
  | false =>
    have start : skipSpace ("false".toList ++ rest) = "false".toList ++ rest :=
      skipSpace_cons rfl _
    simp only [Reads, readValue?, Bool.false_eq_true, ↓reduceIte, start]
    rfl

theorem number (numeral : Numeral cs v) (ends : EndsNumber rest) :
    Reads (fuel + 1) (cs ++ rest) (.value v) rest := by
  have read := readNumber?_of_numeral numeral ends
  obtain ⟨c, tail, rfl, starts⟩ := numeral.head
  have start : skipSpace (c :: (tail ++ rest)) = c :: (tail ++ rest) :=
    skipSpace_cons (isBlank_of_startsNumber starts) _
  have other (d : Char) (hd : d ∈ ['\x22', '[', '\x7b', 'n', 't', 'f']) : c ≠ d := by
    rintro rfl
    exact not_startsNumber (List.mem_append_left [']'] hd) starts
  rw [List.cons_append] at read ⊢
  simp [Reads, readValue?, start, other, read]

end Reads

/-! ### Parts are read -/

/-- A value starts with a character that is no white space and does not end an array. -/
theorem Spells.head {v : Json} {cs : List Char} (h : Spells (.value v) cs) :
    ∃ c tail, cs = c :: tail ∧ isBlank c = false ∧ c ≠ ']' := by
  cases h with
  | number numeral =>
    obtain ⟨c, tail, rfl, starts⟩ := numeral.head
    refine ⟨c, tail, rfl, isBlank_of_startsNumber starts, ?_⟩
    rintro rfl
    exact not_startsNumber (by decide) starts
  | bool b => cases b <;> exact ⟨_, _, rfl, rfl, by decide⟩
  | _ => exact ⟨_, _, rfl, rfl, by decide⟩

theorem endsNumber_of_blank {b ds : List Char} (blank : Blank b) (ends : EndsNumber ds) :
    EndsNumber (b ++ ds) := by
  cases b with
  | nil => exact ends
  | cons c b =>
    rintro _ ⟨⟩
    have space := blank c List.mem_cons_self
    simp only [isBlank, Bool.or_eq_true, beq_iff_eq] at space
    rcases space with ((rfl | rfl) | rfl) | rfl <;> exact ⟨rfl, by decide, rfl⟩

/-- What stands after the first item or member of something ends a number. -/
theorem Spells.endsNumber_items {xs : List Json} {ds : List Char} (h : Spells (.items xs) ds)
    {b : List Char} (blank : Blank b) (rest : List Char) : EndsNumber (b ++ ds ++ rest) := by
  rw [List.append_assoc]
  refine endsNumber_of_blank blank ?_
  cases h <;> rintro _ ⟨⟩ <;> exact ⟨rfl, by decide, rfl⟩

theorem Spells.endsNumber_members {ms : List (String × Json)} {ds : List Char}
    (h : Spells (.members ms) ds) {b : List Char} (blank : Blank b) (rest : List Char) :
    EndsNumber (b ++ ds ++ rest) := by
  rw [List.append_assoc]
  refine endsNumber_of_blank blank ?_
  cases h <;> rintro _ ⟨⟩ <;> exact ⟨rfl, by decide, rfl⟩

/-- A text is read as a part, and what follows it is left. -/
def Readable (p : Part) (cs : List Char) : Prop :=
  ∀ rest fuel, EndsNumber rest → cs.length < fuel → Reads fuel (cs ++ rest) p rest

namespace Readable

variable {a b cs ds s : List Char} {p q : Part} {v x : Json} {xs : List Json}
  {m : String × Json} {ms : List (String × Json)}

/-- What is read whatever the fuel, as long as there is some. -/
theorem of_reads (h : ∀ rest fuel, EndsNumber rest → Reads (fuel + 1) (cs ++ rest) p rest) :
    Readable p cs := by
  intro rest fuel ends enough
  obtain ⟨fuel, rfl⟩ := Nat.exists_eq_add_of_lt enough
  exact h rest _ ends

/-- A mark and two parts, one after the other, with white space around the first: the whole is read
if it is read whenever the parts are. -/
theorem of_pair {mark : Char} {whole : Part} (first : Readable p cs) (more : Readable q ds)
    (before : Blank a) (after : Blank b) (follows : ∀ rest, EndsNumber (b ++ ds ++ rest))
    (joined : ∀ rest fuel, Reads fuel (a ++ (cs ++ (b ++ ds)) ++ rest) p (b ++ ds ++ rest) →
      Reads fuel (b ++ ds ++ rest) q rest →
      Reads (fuel + 1) (mark :: (a ++ (cs ++ (b ++ ds)) ++ rest)) whole rest) :
    Readable whole (mark :: (a ++ (cs ++ (b ++ ds)))) := by
  intro rest fuel ends enough
  obtain ⟨fuel, rfl⟩ : ∃ n, fuel = n + 1 := ⟨fuel - 1, by omega⟩
  simp only [List.length_cons, List.length_append] at enough
  refine joined rest fuel ?_ ?_
  · rw [List.append_assoc, reads_blank before, List.append_assoc]
    exact first _ _ (follows rest) (by omega)
  · rw [List.append_assoc, reads_blank after]
    exact more _ _ ends (by omega)

theorem skipSpace_append_cons {c : Char} {tail : List Char} (before : Blank a)
    (mark : isBlank c = false) (rest : List Char) :
    skipSpace (a ++ (c :: tail) ++ rest) = c :: (tail ++ rest) := by
  rw [List.append_assoc, skipSpace_append before]
  exact skipSpace_cons mark (tail ++ rest)

theorem emptyArray (blank : Blank a) : Readable (.value (.arr [])) ('[' :: (a ++ [']'])) :=
  of_reads fun rest _ _ => .emptyArray (skipSpace_append_cons blank rfl rest)

theorem array (starts : ∃ c tail, cs = c :: tail ∧ isBlank c = false ∧ c ≠ ']')
    (first : Readable (.value x) cs) (more : Readable (.items xs) ds) (before : Blank a)
    (after : Blank b) (follows : ∀ rest, EndsNumber (b ++ ds ++ rest)) :
    Readable (.value (.arr (x :: xs))) ('[' :: (a ++ (cs ++ (b ++ ds)))) := by
  obtain ⟨c, tail, rfl, mark, goesOn⟩ := starts
  exact first.of_pair more before after follows fun rest _ one others =>
    .array (skipSpace_append_cons before mark rest) goesOn one others

theorem item (first : Readable (.value x) cs) (more : Readable (.items xs) ds) (before : Blank a)
    (after : Blank b) (follows : ∀ rest, EndsNumber (b ++ ds ++ rest)) :
    Readable (.items (x :: xs)) (',' :: (a ++ (cs ++ (b ++ ds)))) := by
  exact first.of_pair more before after follows fun _ _ one others => .item one others

theorem emptyObject (blank : Blank a) :
    Readable (.value (.obj [])) ('\x7b' :: (a ++ ['\x7d'])) :=
  of_reads fun rest _ _ => .emptyObject (skipSpace_append_cons blank rfl rest)

theorem object (starts : ∃ tail, cs = '\x22' :: tail) (first : Readable (.member m) cs)
    (more : Readable (.members ms) ds) (before : Blank a) (after : Blank b)
    (follows : ∀ rest, EndsNumber (b ++ ds ++ rest)) :
    Readable (.value (.obj (m :: ms))) ('\x7b' :: (a ++ (cs ++ (b ++ ds)))) := by
  obtain ⟨tail, rfl⟩ := starts
  exact first.of_pair more before after follows fun rest _ one others =>
    .object (skipSpace_append_cons before rfl rest) (by decide) one others

theorem members (first : Readable (.member m) cs) (more : Readable (.members ms) ds)
    (before : Blank a) (after : Blank b) (follows : ∀ rest, EndsNumber (b ++ ds ++ rest)) :
    Readable (.members (m :: ms)) (',' :: (a ++ (cs ++ (b ++ ds)))) := by
  exact first.of_pair more before after follows fun _ _ one others => .members one others

theorem member (name : Spelled cs s) (before : Blank a) (after : Blank b)
    (value : Readable (.value v) ds) : Readable (.member (String.ofList s, v))
      ('\x22' :: (cs ++ '\x22' :: (a ++ ':' :: (b ++ ds)))) := by
  intro rest fuel ends enough
  obtain ⟨fuel, rfl⟩ : ∃ n, fuel = n + 1 := ⟨fuel - 1, by omega⟩
  simp only [List.length_cons, List.length_append] at enough
  have read : Reads fuel (b ++ ds ++ rest) (.value v) rest := by
    rw [List.append_assoc, reads_blank after]
    exact value _ _ ends (by omega)
  have colon : skipSpace (a ++ (':' :: (b ++ ds)) ++ rest) = ':' :: (b ++ ds ++ rest) :=
    skipSpace_append_cons before rfl rest
  simpa using Reads.member name colon read

end Readable

/-- **The reader reads what is spelled**, and leaves what follows. -/
theorem Spells.readable {p : Part} {cs : List Char} (h : Spells p cs) : Readable p cs := by
  induction h with
  | null => exact .of_reads fun _ _ _ => .null
  | bool b => exact .of_reads fun _ _ _ => .bool b
  | number numeral => exact .of_reads fun _ _ ends => .number numeral ends
  | string text => exact .of_reads fun rest _ _ => by simpa using Reads.string text
  | emptyArray blank => exact .emptyArray blank
  | array before first after more ih ih' =>
    exact .array first.head ih ih' before after (more.endsNumber_items after)
  | endArray => exact .of_reads fun _ _ _ => .endArray
  | item before item after more ih ih' =>
    exact .item ih ih' before after (more.endsNumber_items after)
  | emptyObject blank => exact .emptyObject blank
  | object before first after more ih ih' =>
    refine .object ?_ ih ih' before after (more.endsNumber_members after)
    cases first
    exact ⟨_, rfl⟩
  | endObject => exact .of_reads fun _ _ _ => .endObject
  | members before member after more ih ih' =>
    exact .members ih ih' before after (more.endsNumber_members after)
  | member name before after value ih => exact .member name before after ih

/-- A text is read as the value that it is the JSON of. -/
theorem Document.parse? {v : Json} {s : String} (h : Document v s) : Json.parse? s = some v := by
  obtain ⟨a, cs, b, split, before, spells, after⟩ := h
  have ends : EndsNumber b := by
    have none_after : EndsNumber (b ++ []) := endsNumber_of_blank after nofun
    rwa [List.append_nil] at none_after
  have nothing : skipSpace b = [] := by
    have skip := skipSpace_append after []
    rwa [List.append_nil] at skip
  have read : Reads (2 * s.toList.length + 2) s.toList (.value v) b := by
    have enough : cs.length < 2 * s.toList.length + 2 := by
      rw [split, List.length_append, List.length_append]
      omega
    rw [split, reads_blank before, ← split]
    exact spells.readable b _ ends enough
  simp only [Reads] at read
  simp only [Json.parse?, parseChars?, read, nothing, ↓reduceIte]

/-- **JSON is not ambiguous.** -/
theorem Document.unique {v w : Json} {s : String} (h : Document v s) (h' : Document w s) : v = w :=
  Option.some.inj (h.parse?.symm.trans h'.parse?)

end Json
end RecordSync
