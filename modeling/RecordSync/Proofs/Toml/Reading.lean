import RecordSync.Proofs.Json.Reading
import RecordSync.Proofs.Toml.Grammar
import RecordSync.Toml.Parser

/-!
# Lines of a table are read

The reader takes every string, key and value of the grammar for what it stands for, whatever
follows a string, and as long as a key or a number is not followed by something that goes on with
it. From this follows what one line does: nothing if it says nothing, else what its header or its
entry does to what has been read so far.

Key definitions: `Toml.EndsValue`, `Toml.AtLineEnd`, `Toml.Reads`.
Key theorems: `Toml.readBasic?_of_spelled`, `Toml.SpellsKey.readPath?`,
`Toml.SpellsValue.readValue?`, `Toml.Aside.skip`, `Toml.Reads.aside`, `Toml.Reads.header`,
`Toml.Reads.entry`.
-/
namespace RecordSync
namespace Toml

variable {a cs s ks vs rest : List Char} {c : Char} {name : String} {v : Value} {n : Nat}

/-! ### Strings -/

theorem readBasic?_quote (cs : List Char) : readBasic? ('\x22' :: cs) = some ([], cs) := by
  rw [readBasic?]

theorem readBasic?_plain (printable : isPrintable c = true) (quote : c ≠ '\x22')
    (backslash : c ≠ '\\') (cs : List Char) :
    readBasic? (c :: cs) = (readBasic? cs).map fun r => (c :: r.1, r.2) := by
  rw [readBasic?, if_pos printable]
  · exact quote
  · rintro _ _ _ _ _ rfl
    exact absurd rfl backslash
  · rintro _ _ _ _ _ _ _ _ _ rfl
    exact absurd rfl backslash
  · rintro _ _ rfl
    exact absurd rfl backslash

theorem readBasic?_letter {e : Char} (letter : (e, c) ∈ letters) (cs : List Char) :
    readBasic? ('\\' :: e :: cs) = (readBasic? cs).map fun r => (c :: r.1, r.2) := by
  have all : ∀ p ∈ letters, unescape? p.1 = some p.2 ∧ p.1 ≠ 'u' ∧ p.1 ≠ 'U' := by decide
  obtain ⟨value, short, long⟩ := all _ letter
  rw [readBasic?, value]
  · cases readBasic? cs <;> rfl
  · rintro _ _ _ _ _ rfl
    exact absurd rfl short
  · rintro _ _ _ _ _ _ _ _ _ rfl
    exact absurd rfl long

theorem readBasic?_short {a b c d x : Char} (value : Json.FourHex a b c d x.toNat)
    (cs : List Char) : readBasic? ('\\' :: 'u' :: a :: b :: c :: d :: cs) =
      (readBasic? cs).map fun r => (x :: r.1, r.2) := by
  have char : hexChar? [a, b, c, d] = some x := by
    rw [hexChar?, value.hexFrom?, Option.bind_some, Json.scalar?_toNat]
  rw [readBasic?, char]
  cases readBasic? cs <;> rfl

theorem hexFrom?_eight {a b c d e f g h : Char} {high low : Nat}
    (first : Json.FourHex a b c d high) (second : Json.FourHex e f g h low) :
    Json.hexFrom? 0 [a, b, c, d, e, f, g, h] = some (0x10000 * high + low) := by
  obtain ⟨w, x, y, z, ha, hb, hc, hd, rfl⟩ := first
  obtain ⟨w', x', y', z', he, hf, hg, hh, rfl⟩ := second
  simp only [Json.hexFrom?, ha.hexValue?, hb.hexValue?, hc.hexValue?, hd.hexValue?, he.hexValue?,
    hf.hexValue?, hg.hexValue?, hh.hexValue?, Option.bind_some, Option.some.injEq]
  omega

theorem readBasic?_long {a b c d e f g h x : Char} {high low : Nat}
    (first : Json.FourHex a b c d high) (second : Json.FourHex e f g h low)
    (value : x.toNat = 0x10000 * high + low) (cs : List Char) :
    readBasic? ('\\' :: 'U' :: a :: b :: c :: d :: e :: f :: g :: h :: cs) =
      (readBasic? cs).map fun r => (x :: r.1, r.2) := by
  have char : hexChar? [a, b, c, d, e, f, g, h] = some x := by
    rw [hexChar?, hexFrom?_eight first second, ← value, Option.bind_some, Json.scalar?_toNat]
  rw [readBasic?, char]
  cases readBasic? cs <;> rfl

/-- A string is read as what it stands for. -/
theorem readBasic?_of_spelled (h : Spelled cs s) (rest : List Char) :
    readBasic? (cs ++ '\x22' :: rest) = some (s, rest) := by
  induction h with
  | nil => exact readBasic?_quote rest
  | plain printable quote backslash _ ih =>
    rw [List.cons_append, readBasic?_plain printable quote backslash, ih, Option.map_some]
  | letter letter _ ih =>
    rw [List.cons_append, List.cons_append, readBasic?_letter letter, ih, Option.map_some]
  | short value _ ih =>
    simp only [List.cons_append]
    rw [readBasic?_short value, ih, Option.map_some]
  | long first second value _ ih =>
    simp only [List.cons_append]
    rw [readBasic?_long first second value, ih, Option.map_some]

/-- The first quote of what is between the quotes is the last one. -/
theorem Spelled.ne_quote (h : Spelled cs s) : ∀ c ∈ cs.head?, c ≠ '\x22' := by
  cases h <;> simp_all

theorem readString?_of_spelled (h : Spelled cs s) (ends : ∀ c ∈ rest.head?, c ≠ '\x22') :
    readString? ('\x22' :: (cs ++ '\x22' :: rest)) = some (String.ofList s, rest) := by
  have single : ∀ ds, '\x22' :: (cs ++ '\x22' :: rest) ≠ '\x22' :: '\x22' :: '\x22' :: ds := by
    intro ds
    have first := h.ne_quote
    cases cs with
    | nil =>
      cases rest with
      | nil => simp
      | cons c rest => simpa using fun same => absurd same (ends c rfl)
    | cons c cs => simpa using fun same => absurd same (first c rfl)
  rw [readString?, readBasic?_of_spelled h, Option.map_some]
  intro ds same
  exact single ds (congrArg _ same)

/-! ### Space -/

theorem isSpace_iff : isSpace c = true ↔ c = ' ' ∨ c = '\t' := by simp [isSpace]

/-- What a text does not start with is not skipped. -/
theorem dropWhile_eq_self {p : Char → Bool} (h : ∀ c ∈ cs.head?, p c = false) :
    cs.dropWhile p = cs := by
  cases cs with
  | nil => rfl
  | cons c cs => rw [List.dropWhile_cons_of_neg (by simp [h c rfl])]

theorem takeWhile_eq_nil {p : Char → Bool} (h : ∀ c ∈ cs.head?, p c = false) :
    cs.takeWhile p = [] := by
  cases cs with
  | nil => rfl
  | cons c cs => rw [List.takeWhile_cons_of_neg (by simp [h c rfl])]

theorem skipSpace_append (space : Space a) (cs : List Char) :
    skipSpace (a ++ cs) = skipSpace cs := by
  rw [skipSpace, List.dropWhile_append_of_pos space, skipSpace]

theorem skipSpace_eq_self (h : ∀ c ∈ cs.head?, isSpace c = false) : skipSpace cs = cs :=
  dropWhile_eq_self h

/-! ### Keys -/

/-- A bare key is neither space nor a mark. -/
theorem isBare_cases (bare : isBare c = true) :
    isSpace c = false ∧ c ∉ ['\x22', '\x27', '[', '#', '\n', '\r'] := by
  have marks : ∀ d ∈ [' ', '\t', '\x22', '\x27', '[', '#', '\n', '\r'], isBare d = false := by
    simp [isBare]
  have other (d : Char) (mark : d ∈ [' ', '\t', '\x22', '\x27', '[', '#', '\n', '\r']) : c ≠ d := by
    rintro rfl
    rw [marks c mark] at bare
    cases bare
  constructor
  · simp [isSpace, other ' ', other '\t']
  · simp [other]

/-- A key starts with a quote, or as a bare key. -/
theorem SpellsKey.head (h : SpellsKey name ks) :
    ∃ c cs, ks = c :: cs ∧ (c = '\x22' ∨ isBare c = true) := by
  cases h with
  | bare nonempty bare =>
    obtain ⟨c, cs, split⟩ := List.exists_cons_of_ne_nil nonempty
    exact ⟨c, cs, split, .inr (bare c (split ▸ List.mem_cons_self))⟩
  | quoted text => exact ⟨_, _, rfl, .inl rfl⟩

theorem SpellsKey.readKey? (h : SpellsKey name ks) (ends : ∀ c ∈ rest.head?, isBare c = false) :
    Toml.readKey? (ks ++ rest) = some (name, rest) := by
  cases h with
  | bare nonempty bare =>
    obtain ⟨c, cs, split⟩ := List.exists_cons_of_ne_nil nonempty
    have first := (isBare_cases (bare c (split ▸ List.mem_cons_self))).2
    have taken : (name.toList ++ rest).takeWhile isBare = name.toList := by
      rw [List.takeWhile_append_of_pos bare, takeWhile_eq_nil ends, List.append_nil]
    rw [Toml.readKey?, taken, List.dropWhile_append_of_pos bare, dropWhile_eq_self ends]
    · rw [split]
      dsimp only
      rw [← split, String.ofList_toList]
    · rintro ds same
      simp [split] at same
      simp [same.1] at first
    · rintro ds same
      simp [split] at same
      simp [same.1] at first
  | quoted text =>
    rw [List.cons_append, List.append_assoc, List.singleton_append, Toml.readKey?,
      readBasic?_of_spelled text, Option.map_some]

/-- A key is a path by itself, if neither a dot nor more of the key follows. -/
theorem SpellsKey.readPath? (h : SpellsKey name ks) {b d : List Char} (before : Space b)
    (after : Space d) (goesOn : isSpace c = false ∧ isBare c = false ∧ c ≠ '.') :
    Toml.readPath? (b ++ (ks ++ (d ++ c :: rest))) = some ([name], c :: rest) := by
  have start : skipSpace (b ++ (ks ++ (d ++ c :: rest))) = ks ++ (d ++ c :: rest) := by
    obtain ⟨x, xs, rfl, first⟩ := h.head
    rw [skipSpace_append before, skipSpace_eq_self]
    rintro _ ⟨⟩
    rcases first with rfl | bare
    · rfl
    · exact (isBare_cases bare).1
  have notBare : ∀ x ∈ (d ++ c :: rest).head?, isBare x = false := by
    cases d with
    | nil =>
      rintro _ ⟨⟩
      exact goesOn.2.1
    | cons y d =>
      rintro _ ⟨⟩
      have space := after y List.mem_cons_self
      by_contra bare
      simp [(isBare_cases (by simpa using bare)).1] at space
  have stop : skipSpace (d ++ c :: rest) = c :: rest := by
    rw [skipSpace_append after, skipSpace_eq_self]
    rintro _ ⟨⟩
    exact goesOn.1
  have one (fuel : Nat) : readPathUpTo? (fuel + 1) (b ++ (ks ++ (d ++ c :: rest))) =
      some ([name], c :: rest) := by
    rw [readPathUpTo?, start, h.readKey? notBare]
    simp only [stop, Option.bind_eq_bind, Option.bind_some]
    split
    · rename_i more same
      simp only [List.cons.injEq] at same
      exact absurd same.1 goesOn.2.2
    · rfl
  rw [Toml.readPath?, one]
  rfl

/-! ### Values -/

/-- What follows a value does not go on with it. -/
def EndsValue (rest : List Char) : Prop := ∀ c ∈ rest.head?, c ∈ [' ', '\t', '#', '\n']

theorem EndsValue.head (ends : EndsValue rest) (h : c ∈ rest.head?) :
    Decimal.isDigit c = false ∧
      c ∉ ['_', '.', 'e', 'E', '-', ':', 'x', 'o', 'b', '\x22'] := by
  have all : ∀ d ∈ [' ', '\t', '#', '\n'], Decimal.isDigit d = false ∧
      d ∉ ['_', '.', 'e', 'E', '-', ':', 'x', 'o', 'b', '\x22'] := by
    simp [Decimal.isDigit, Decimal.digit?]
  exact all c (ends c h)

theorem readDigits?_append {ds : List Char} (nonempty : ds ≠ [])
    (digits : ∀ c ∈ ds, Decimal.isDigit c = true)
    (ends : ∀ c ∈ rest.head?, Decimal.isDigit c = false ∧ c ≠ '_') :
    readDigits? Decimal.isDigit (ds ++ rest) = some (ds, rest) := by
  induction ds with
  | nil => exact absurd rfl nonempty
  | cons d ds ih =>
    obtain ⟨first, more⟩ := List.forall_mem_cons.mp digits
    have underscore : Decimal.isDigit '_' = false := by decide
    cases ds with
    | nil =>
      cases rest with
      | nil => rw [List.append_nil, readDigits?, if_pos first]
      | cons c rest =>
        obtain ⟨stop, notUnderscore⟩ := ends c rfl
        rw [List.cons_append, List.nil_append, readDigits?, if_pos first, if_neg (by simp [stop])]
        simpa using notUnderscore
    | cons d' ds =>
      have next : Decimal.isDigit d' = true := more d' List.mem_cons_self
      have step := ih (by simp) more
      rw [List.cons_append] at step
      rw [List.cons_append, List.cons_append, readDigits?, if_pos first, if_pos next, step,
        Option.map_some]
      rintro rfl
      rw [underscore] at next
      cases next

theorem digitOf?_of_digit? {d : Nat} (h : Decimal.digit? c = some d) : digitOf? 10 c = some d := by
  obtain ⟨range, rfl⟩ := Decimal.digit?_eq_some_iff.mp h
  have small : c.toNat - '0'.toNat < 10 := by
    have := Nat.sub_le_sub_right (show c.toNat ≤ '9'.toNat from range.2) '0'.toNat
    exact Nat.lt_of_le_of_lt this (by decide)
  rw [digitOf?, if_pos range, Option.filter_some, if_pos (by simpa using small)]

theorem valueOf_of_valueFrom? {ds : List Char} {high : Nat}
    (h : Decimal.valueFrom? high ds = some n) :
    ds.foldl (fun n c => 10 * n + (digitOf? 10 c).getD 0) high = n := by
  induction ds generalizing high with
  | nil => exact Option.some.inj h
  | cons c ds ih =>
    rw [Decimal.valueFrom?] at h
    obtain ⟨d, digit, more⟩ := Option.bind_eq_some_iff.mp h
    rw [List.foldl_cons, digitOf?_of_digit? digit, Option.getD_some, ih more]

theorem isDigit_digits (n : Nat) : ∀ c ∈ Decimal.digits n, Decimal.isDigit c = true :=
  Decimal.isDigit_of_valueFrom? (Decimal.valueFrom?_digits n)

theorem readMoment?_digits (ends : EndsValue rest) (n : Nat) :
    readMoment? (Decimal.digits n ++ rest) = none := by
  have front : rest.dropWhile Decimal.isDigit = rest :=
    dropWhile_eq_self fun _ h => (ends.head h).1
  rw [readMoment?, List.dropWhile_append_of_pos (isDigit_digits n), front]
  split
  · exact absurd (ends.head rfl).2 (by simp)
  · exact absurd (ends.head rfl).2 (by simp)
  · rfl

theorem readDecimal?_digits (small : n ≤ largest) (ends : EndsValue rest) :
    readDecimal? false (Decimal.digits n ++ rest) = some (.integer n, rest) := by
  have stops : ∀ c ∈ rest.head?, Decimal.isDigit c = false ∧ c ≠ '_' :=
    fun c h => ⟨(ends.head h).1, fun same => (ends.head h).2 (by simp [same])⟩
  have digits := readDigits?_append (Decimal.digits_ne_nil n) (isDigit_digits n) stops
  have noZero : ¬(1 < (Decimal.digits n).length ∧ (Decimal.digits n).head? = some '0') := by
    rintro ⟨long, zero⟩
    rcases (Json.whole_digits n).short with one | first
    · omega
    · exact first zero
  have fraction : readFraction? rest = some ([], rest) := by
    unfold readFraction?
    split
    · exact absurd (ends.head rfl).2 (by simp)
    · rfl
  have exponent : readExponent? rest = some ([], rest) := by
    unfold readExponent?
    split
    · exact absurd (ends.head rfl).2 (by simp)
    · exact absurd (ends.head rfl).2 (by simp)
    · rfl
  have value : valueOf 10 (Decimal.digits n) = n :=
    valueOf_of_valueFrom? (Decimal.valueFrom?_digits n)
  have word : word? (n : Int) = some (.integer n) := by
    rw [word?, if_pos]
    rw [largest] at small
    omega
  simp [readDecimal?, digits, noZero, fraction, exponent, value, word]

/-- A number starts with a digit. -/
theorem first_digit (h : Decimal.digits n ++ rest = c :: cs) : Decimal.isDigit c = true := by
  obtain ⟨d, ds, split⟩ := List.exists_cons_of_ne_nil (Decimal.digits_ne_nil n)
  rw [split, List.cons_append, List.cons.injEq] at h
  exact h.1 ▸ isDigit_digits n d (split ▸ List.mem_cons_self)

/-- A number goes on with a digit, or ends. -/
theorem second_digit {d : Char} (h : Decimal.digits n ++ rest = d :: c :: cs) :
    Decimal.isDigit c = true ∨ c ∈ rest.head? := by
  have digits := isDigit_digits n
  rcases split : Decimal.digits n with _ | ⟨x, _ | ⟨y, ds⟩⟩
  · exact absurd split (Decimal.digits_ne_nil n)
  · rw [split, List.singleton_append, List.cons.injEq] at h
    exact .inr (by simp [h.2])
  · rw [split] at h digits
    simp only [List.cons_append, List.cons.injEq] at h
    exact .inl (h.2.1 ▸ digits y (by simp))

theorem readNumber?_digits (small : n ≤ largest) (ends : EndsValue rest) :
    readNumber? (Decimal.digits n ++ rest) = some (.integer n, rest) := by
  have noBase {d c : Char} {cs : List Char} (mark : c ∈ ['x', 'o', 'b'])
      (h : Decimal.digits n ++ rest = d :: c :: cs) : False := by
    have noDigit : ∀ c ∈ ['x', 'o', 'b'], Decimal.isDigit c = false := by
      simp [Decimal.isDigit, Decimal.digit?]
    rcases second_digit h with digit | next
    · rw [noDigit c mark] at digit
      cases digit
    · have := (ends.head next).2
      simp_all
  rw [readNumber?, readMagnitude?, readDecimal?_digits small ends]
  · exact fun _ h => absurd (first_digit h) (by decide)
  · exact fun _ h => absurd (first_digit h) (by decide)
  · exact fun _ => noBase (by simp)
  · exact fun _ => noBase (by simp)
  · exact fun _ => noBase (by simp)
  · exact fun _ h => absurd (first_digit h) (by decide)
  · exact fun _ h => absurd (first_digit h) (by decide)

theorem readWord?_digits (small : n ≤ largest) (ends : EndsValue rest) :
    readWord? (Decimal.digits n ++ rest) = some (.integer n, rest) := by
  rw [readWord?, readMoment?_digits ends]
  · exact readNumber?_digits small ends
  · exact fun _ h => absurd (first_digit h) (by decide)
  · exact fun _ h => absurd (first_digit h) (by decide)

/-- A value is read as what it stands for. -/
theorem SpellsValue.readValue? (h : SpellsValue v vs) (ends : EndsValue rest) (fuel levels : Nat) :
    Toml.readValue? (fuel + 1) levels (vs ++ rest) = some (v, rest) := by
  cases h with
  | string text =>
    have noQuote : ∀ c ∈ rest.head?, c ≠ '\x22' :=
      fun c h same => (ends.head h).2 (by simp [same])
    rw [List.cons_append, List.append_assoc, List.singleton_append, Toml.readValue?,
      readString?_of_spelled text noQuote, Option.map_some]
  | number small =>
    rw [Toml.readValue?, readWord?_digits small ends]
    · exact fun _ h => absurd (first_digit h) (by decide)
    · exact fun _ h => absurd (first_digit h) (by decide)
    · exact fun _ h => absurd (first_digit h) (by decide)
    · exact fun _ _ h => absurd (first_digit h) (by decide)
    · exact fun _ h => absurd (first_digit h) (by decide)
    · exact fun _ _ h => absurd (first_digit h) (by decide)

/-- A value does not start with space. -/
theorem SpellsValue.head (h : SpellsValue v vs) : ∀ c ∈ (vs ++ rest).head?, isSpace c = false := by
  cases h with
  | string text =>
    rintro _ ⟨⟩
    rfl
  | number small =>
    intro c first
    obtain ⟨cs, split⟩ := List.head?_eq_some_iff.mp first
    have digit := first_digit split
    by_contra space
    rcases isSpace_iff.mp (by simpa using space) with rfl | rfl <;> exact absurd digit (by decide)

/-! ### What says nothing -/

/-- What is left of a text starts with the end of a line, or is nothing. -/
inductive AtLineEnd : List Char → Prop
  | file : AtLineEnd []
  | line (cs : List Char) : AtLineEnd ('\n' :: cs)

theorem AtLineEnd.skip (h : AtLineEnd rest) : skipComment? (skipSpace rest) = some rest := by
  cases h <;> rfl

theorem Aside.skip (h : Aside a) (ends : AtLineEnd rest) :
    skipComment? (skipSpace (a ++ rest)) = some rest := by
  cases h with
  | space space => rw [skipSpace_append space, ends.skip]
  | comment space printable =>
    have front : rest.dropWhile isPrintable = rest := by cases ends <;> rfl
    have after : rest.isEmpty = true ∨ (afterNewline? rest).isSome = true := by
      cases ends
      · exact .inl rfl
      · exact .inr rfl
    rw [List.append_assoc, skipSpace_append space, List.cons_append, skipSpace_eq_self,
      skipComment?]
    · rw [List.dropWhile_append_of_pos printable, front, if_pos (by simpa using after)]
    · rintro _ ⟨⟩
      rfl

theorem Aside.endLine? (h : Aside a) (ends : AtLineEnd rest) :
    Toml.endLine? (a ++ rest) = some rest.tail := by
  rw [Toml.endLine?, h.skip ends]
  cases ends <;> rfl

/-- What says nothing does not go on with a value. -/
theorem Aside.endsValue (h : Aside a) (ends : AtLineEnd rest) : EndsValue (a ++ rest) := by
  have spaces {b cs : List Char} (space : Space b) (ends : EndsValue cs) : EndsValue (b ++ cs) := by
    cases b with
    | nil => exact ends
    | cons c b =>
      rintro _ ⟨⟩
      rcases isSpace_iff.mp (space c List.mem_cons_self) with rfl | rfl <;> simp
  cases h with
  | space space =>
    refine spaces space ?_
    cases ends with
    | file => rintro _ ⟨⟩
    | line => rintro _ ⟨⟩; simp
  | comment space printable =>
    rw [List.append_assoc]
    refine spaces space ?_
    rintro _ ⟨⟩
    simp

/-! ### Lines -/

/-- Reading a header opens its table. -/
theorem readHeader?_of_spells (key : SpellsKey name ks) {b d : List Char} (before : Space b)
    (after : Space d) (aside : Aside a) (ends : AtLineEnd rest) (p : Progress) :
    readHeader? p (b ++ (ks ++ (d ++ ']' :: (a ++ rest)))) =
      (openTable? [name] p.entries).map fun entries => (⟨entries, [name]⟩, rest.tail) := by
  have path : Toml.readPath? (b ++ (ks ++ (d ++ ']' :: (a ++ rest)))) =
      some ([name], ']' :: (a ++ rest)) := key.readPath? before after (by decide)
  rw [readHeader?, path]
  simp only [aside.endLine? ends, Option.bind_eq_bind, Option.bind_some]
  cases openTable? [name] p.entries <;> rfl

/-- Reading an entry puts its value under its key in the open table. -/
theorem readKeyValue?_of_spells (key : SpellsKey name ks) (value : SpellsValue v vs) {b d : List Char}
    (before : Space b) (after : Space d) (aside : Aside a) (ends : AtLineEnd rest) (p : Progress) :
    readKeyValue? p (ks ++ (b ++ '=' :: (d ++ (vs ++ (a ++ rest))))) =
      (within? (insertAt? v [name]) p.header p.entries).map
        fun entries => (⟨entries, p.header⟩, rest.tail) := by
  have path : Toml.readPath? ([] ++ (ks ++ (b ++ '=' :: (d ++ (vs ++ (a ++ rest)))))) =
      some ([name], '=' :: (d ++ (vs ++ (a ++ rest)))) :=
    key.readPath? space_nil before (by decide)
  have start : skipSpace (d ++ (vs ++ (a ++ rest))) = vs ++ (a ++ rest) := by
    rw [skipSpace_append after, skipSpace_eq_self value.head]
  rw [List.nil_append] at path
  rw [readKeyValue?, path]
  simp only [start, value.readValue? (aside.endsValue ends), aside.endLine? ends,
    Option.bind_eq_bind, Option.bind_some]
  cases within? (insertAt? v [name]) p.header p.entries <;> rfl

/-! ### Files -/

theorem skipLines?_mono {f g : Nat} (le : f ≤ g) {cs ds : List Char}
    (h : skipLines? f cs = some ds) : skipLines? g cs = some ds := by
  induction f generalizing g cs with
  | zero => cases h
  | succ f ih =>
    obtain ⟨g, rfl⟩ := Nat.exists_eq_add_of_le' (Nat.le_trans (Nat.succ_pos f) le)
    rw [skipLines?] at h ⊢
    obtain ⟨rest, comment, h⟩ := Option.bind_eq_some_iff.mp h
    rw [comment]
    cases line : afterNewline? rest with
    | none => simpa [line] using h
    | some more =>
      simp only [line] at h
      simpa [line] using ih (by omega) h

/-- With more fuel a file is read alike. -/
theorem readFile?_mono {f g : Nat} (le : f ≤ g) {p q : Progress} {cs : List Char}
    (h : readFile? f p cs = some q) : readFile? g p cs = some q := by
  induction f generalizing g p cs with
  | zero => cases h
  | succ f ih =>
    obtain ⟨g, rfl⟩ := Nat.exists_eq_add_of_le' (Nat.le_trans (Nat.succ_pos f) le)
    rw [readFile?] at h ⊢
    obtain ⟨ds, skip, h⟩ := Option.bind_eq_some_iff.mp h
    rw [skip]
    simp only [Option.bind_eq_bind, Option.bind_some] at h ⊢
    split at h
    · rwa [if_pos ‹_›]
    · rw [if_neg ‹_›]
      obtain ⟨r, line, h⟩ := Option.bind_eq_some_iff.mp h
      rw [line]
      exact ih (by omega) h

/-- Reading a text takes what has been read so far to what has been read in the end. -/
def Reads (p : Progress) (cs : List Char) (q : Progress) : Prop :=
  ∀ fuel, cs.length < fuel → readFile? fuel p cs = some q

theorem reads_of_readFile? {fuel : Nat} (le : fuel ≤ cs.length + 1) {p q : Progress}
    (h : readFile? fuel p cs = some q) : Reads p cs q :=
  fun _ lt => readFile?_mono (Nat.le_trans le lt) h

theorem Aside.skipBlank? (aside : Aside a) (ends : AtLineEnd rest) {ds : List Char}
    (h : Toml.skipBlank? rest.tail = some ds) : Toml.skipBlank? (a ++ rest) = some ds := by
  rw [Toml.skipBlank?, skipLines?, aside.skip ends]
  cases ends with
  | file => exact h
  | line cs => exact skipLines?_mono (by simp) h

/-- A line that says nothing changes nothing. -/
theorem Reads.aside {p q : Progress} (h : Reads p rest.tail q) (aside : Aside a)
    (ends : AtLineEnd rest) : Reads p (a ++ rest) q := by
  intro fuel lt
  obtain ⟨fuel, rfl⟩ := Nat.exists_eq_add_of_le' (Nat.lt_of_le_of_lt (Nat.zero_le _) lt)
  have more := h (fuel + 1) (by simp at lt ⊢; omega)
  rw [readFile?] at more ⊢
  obtain ⟨ds, skip, more⟩ := Option.bind_eq_some_iff.mp more
  rw [aside.skipBlank? ends skip]
  exact more

/-- A character with which a line starts that says something. -/
def Opens (c : Char) : Prop := isSpace c = false ∧ c ∉ ['#', '\n', '\r']

theorem skipBlank?_of_opens (space : Space a) (opens : Opens c) (cs : List Char) :
    Toml.skipBlank? (a ++ c :: cs) = some (c :: cs) := by
  have start : skipSpace (a ++ c :: cs) = c :: cs := by
    rw [skipSpace_append space, skipSpace_eq_self]
    rintro _ ⟨⟩
    exact opens.1
  have noComment : skipComment? (c :: cs) = some (c :: cs) := by
    rw [skipComment?]
    rintro _ same
    simp [Opens, List.cons.inj same] at opens
  have sameLine : afterNewline? (c :: cs) = none := by
    rw [afterNewline?]
    · rintro _ same
      simp [Opens, List.cons.inj same] at opens
    · rintro _ same
      simp [Opens, List.cons.inj same] at opens
  simp [Toml.skipBlank?, skipLines?, start, noComment, sameLine]

/-- A line that says something does so to what has been read before. -/
theorem Reads.line {p p' q : Progress} (more : Reads p' rest q) (space : Space a) (opens : Opens c)
    (line : readLine? p (c :: cs) = some (p', rest)) (le : rest.length ≤ cs.length) :
    Reads p (a ++ c :: cs) q := by
  intro fuel lt
  obtain ⟨fuel, rfl⟩ := Nat.exists_eq_add_of_le' (Nat.lt_of_le_of_lt (Nat.zero_le _) lt)
  rw [readFile?, skipBlank?_of_opens space opens]
  simp only [Option.bind_eq_bind, Option.bind_some, List.isEmpty_cons, Bool.false_eq_true, if_false,
    line]
  exact more fuel (by simp at lt; omega)

theorem SpellsKey.opens (h : SpellsKey name ks) (cs : List Char) :
    ∃ c ds, ks ++ cs = c :: ds ∧ Opens c ∧ c ≠ '[' := by
  obtain ⟨c, ds, rfl, first⟩ := h.head
  refine ⟨c, ds ++ cs, rfl, ?_⟩
  rcases first with rfl | bare
  · simp [Opens, isSpace]
  · have := isBare_cases bare
    simp_all [Opens]

/-- A header opens its table. -/
theorem Reads.header {p q : Progress} {l : List Char} {entries : Entries}
    (more : Reads ⟨entries, [name]⟩ rest.tail q) (h : SpellsHeader name l) (ends : AtLineEnd rest)
    (opened : openTable? [name] p.entries = some entries) : Reads p (l ++ rest) q := by
  obtain ⟨indent, before, key, after, aside⟩ := h
  rename_i a b ks c d
  have line : readLine? p ('[' :: (b ++ (ks ++ (c ++ ']' :: (d ++ rest))))) =
      some (⟨entries, [name]⟩, rest.tail) := by
    rw [readLine?, readHeader?_of_spells key before after aside ends, opened, Option.map_some]
    intro cs same
    have first : (b ++ (ks ++ (c ++ ']' :: (d ++ rest)))).head? = some '[' := by
      rw [same]
      rfl
    cases b with
    | nil =>
      obtain ⟨x, ds, split, _, other⟩ := key.opens (c ++ ']' :: (d ++ rest))
      rw [List.nil_append, split] at first
      exact other (Option.some.inj first)
    | cons x b =>
      have space := before x List.mem_cons_self
      rw [Option.some.inj first] at space
      cases space
  have opens : Opens '[' := by simp [Opens, isSpace]
  have read := more.line indent opens line (by simp; omega)
  simpa only [List.append_assoc, List.cons_append] using read

/-- An entry goes into the table that is open. -/
theorem Reads.entry {p q : Progress} {l : List Char} {entries : Entries}
    (more : Reads ⟨entries, p.header⟩ rest.tail q) (h : SpellsEntry (name, v) l)
    (ends : AtLineEnd rest)
    (put : within? (insertAt? v [name]) p.header p.entries = some entries) :
    Reads p (l ++ rest) q := by
  obtain ⟨indent, key, before, after, value, aside⟩ := h
  rename_i a ks b c vs d
  obtain ⟨x, ds, split, opens, other⟩ := key.opens (b ++ '=' :: (c ++ (vs ++ (d ++ rest))))
  have line : readLine? p (x :: ds) = some (⟨entries, p.header⟩, rest.tail) := by
    rw [readLine?, ← split, readKeyValue?_of_spells key value before after aside ends, put,
      Option.map_some]
    · exact fun _ same => other (List.cons.inj same).1
    · exact fun _ same => other (List.cons.inj same).1
  have shorter : rest.tail.length ≤ ds.length := by
    have := congrArg List.length split
    simp at this ⊢
    omega
  have read := more.line indent opens line shorter
  rw [← split] at read
  simpa only [List.append_assoc, List.cons_append] using read

end Toml
end RecordSync
