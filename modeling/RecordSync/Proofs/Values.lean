import RecordSync.Proofs.Results
import RecordSync.Proofs.Utf8
import RecordSync.Row

/-!
# What the bytes of a value show

A value comes as bytes, and goes into a record as text. Which bytes give which text, and which are
refused with what is said of them, is a matter of the kind of the column alone. A whole number is one
to eight bytes in two's complement, and has to be within the bounds of its type; a text is its UTF-8
and nothing else; a point in time needs a calendar day.

Key definitions: `Wire.TwosComplement`, `Wire.IsNumber`, `Wire.NoNumber`, `ColumnKind.Shows`,
`ColumnKind.Refuses`.
Key theorems: `Wire.readInt_intBytes`, `Wire.readInt_eq_ok_iff`, `Wire.readIntOf_eq_ok_iff`,
`Wire.readText_eq_ok_iff`, `Row.textOf_eq_ok_iff`, `Row.textOf_eq_error_iff`.
-/
namespace RecordSync

/-! ### Whole numbers -/

namespace Wire

theorem unsignedFrom_append (high : Nat) (a b : List UInt8) :
    unsignedFrom high (a ++ b) = unsignedFrom (unsignedFrom high a) b := by
  induction a generalizing high with
  | nil => rfl
  | cons x a ih => exact ih _

theorem length_unsignedBytes (width n : Nat) : (unsignedBytes width n).length = width := by
  induction width generalizing n with
  | zero => rfl
  | succ width ih => rw [unsignedBytes, List.length_append, ih, List.length_singleton]

/-- The last bytes of a number have the value of its rest. -/
theorem unsignedFrom_unsignedBytes (width n : Nat) :
    unsignedFrom 0 (unsignedBytes width n) = n % 256 ^ width := by
  induction width generalizing n with
  | zero => simp [unsignedBytes, unsignedFrom, Nat.mod_one]
  | succ width ih =>
    rw [unsignedBytes, unsignedFrom_append, ih, pow_succ, Nat.mul_comm (256 ^ width), Nat.mod_mul]
    simp only [unsignedFrom, UInt8.toNat_ofNat']
    omega

/-- The first byte of a number that fits tells whether the number is in the lower half. -/
theorem head_unsignedBytes {width n : Nat} (h : n < 256 ^ (width + 1)) :
    ∃ b bs, unsignedBytes (width + 1) n = b :: bs ∧
      (b.toNat < 128 ↔ n < 128 * 256 ^ width) := by
  induction width generalizing n with
  | zero =>
    refine ⟨UInt8.ofNat n, [], rfl, ?_⟩
    rw [UInt8.toNat_ofNat']
    omega
  | succ width ih =>
    have power : 256 ^ (width + 2) = 256 ^ (width + 1) * 256 := pow_succ 256 (width + 1)
    have power' : 256 ^ (width + 1) = 256 ^ width * 256 := pow_succ 256 width
    obtain ⟨b, bs, heq, hb⟩ := ih (n := n / 256) (by omega)
    refine ⟨b, bs ++ [UInt8.ofNat n], by rw [unsignedBytes, heq, List.cons_append], hb.trans ?_⟩
    omega

/-- **A whole number within its width is read back from its bytes.** -/
theorem readInt_intBytes {width : Nat} {n : Int} (hw : width < 8)
    (h : -(128 * 256 ^ width : Nat) ≤ n ∧ n < (128 * 256 ^ width : Nat)) :
    readInt (intBytes (width + 1) n) = .ok n := by
  have power : 256 ^ (width + 1) = 256 * 256 ^ width := by rw [pow_succ, Nat.mul_comm]
  have bound : Nat.pow 256 (width + 1) = 256 ^ (width + 1) := rfl
  have positive : 0 < 256 ^ width := Nat.pow_pos (by decide)
  obtain ⟨m, hm⟩ : ∃ m, m = (n % (256 ^ (width + 1) : Nat)).toNat := ⟨_, rfl⟩
  have value : (m : Int) = if 0 ≤ n then n else n + (256 ^ (width + 1) : Nat) := by
    rw [hm, Int.toNat_of_nonneg (Int.emod_nonneg _ (by omega))]
    split
    · rw [Int.emod_eq_of_lt (by omega) (by omega)]
    · rw [← Int.add_emod_right, Int.emod_eq_of_lt (by omega) (by omega)]
  have fits : m < 256 ^ (width + 1) := by
    split at value <;> omega
  obtain ⟨b, bs, heq, hb⟩ := head_unsignedBytes fits
  have length := length_unsignedBytes (width + 1) m
  have whole := unsignedFrom_unsignedBytes (width + 1) m
  rw [Nat.mod_eq_of_lt fits] at whole
  have bytes : intBytes (width + 1) n = b :: bs := by
    rw [← heq, hm]
    rfl
  rw [heq] at length whole
  have short : ¬8 < width + 1 := by omega
  rw [bytes]
  simp only [readInt, length, short, ↓reduceIte, whole, bound]
  congr 1
  by_cases sign : 0 ≤ n
  · rw [if_pos sign] at value
    rw [if_pos (hb.mpr (by omega)), value]
  · rw [if_neg sign] at value
    rw [if_neg fun hlow => by have := hb.mp hlow; omega, value]
    omega

/-- The numbers of a type of so many bytes that are not negative. -/
theorem two_pow_bits (width : Nat) : 2 ^ (8 * (width + 1) - 1) = 128 * 256 ^ width :=
  calc 2 ^ (8 * (width + 1) - 1) = 2 ^ (7 + 8 * width) := by congr 1; omega
    _ = 2 ^ 7 * (2 ^ 8) ^ width := by rw [pow_add, pow_mul]

/-- Bytes are the last bytes of their value. -/
theorem unsignedBytes_unsignedFrom (bs : List UInt8) :
    unsignedBytes bs.length (unsignedFrom 0 bs) = bs := by
  induction bs using List.reverseRecOn with
  | nil => rfl
  | append_singleton bs b ih =>
    have byte := b.toNat_lt
    have value : unsignedFrom 0 (bs ++ [b]) = 256 * unsignedFrom 0 bs + b.toNat := by
      rw [unsignedFrom_append, unsignedFrom, unsignedFrom]
    have rest : (256 * unsignedFrom 0 bs + b.toNat) / 256 = unsignedFrom 0 bs := by omega
    have last : UInt8.ofNat (256 * unsignedFrom 0 bs + b.toNat) = b :=
      UInt8.toNat_inj.mp (by rw [UInt8.toNat_ofNat']; omega)
    rw [value, List.length_append, List.length_singleton, unsignedBytes, rest, ih, last]

theorem unsignedFrom_lt (bs : List UInt8) : unsignedFrom 0 bs < 256 ^ bs.length := by
  have value := unsignedFrom_unsignedBytes bs.length (unsignedFrom 0 bs)
  rw [unsignedBytes_unsignedFrom] at value
  exact value ▸ Nat.mod_lt _ (Nat.pow_pos (by decide))

/-- One to eight bytes are the two's complement of a number, the most significant first. -/
def TwosComplement (bs : List UInt8) (n : Int) : Prop :=
  ∃ width < 8, bs = intBytes (width + 1) n ∧
    -(128 * 256 ^ width : Nat) ≤ n ∧ n < (128 * 256 ^ width : Nat)

/-- Bytes that are no whole number of whatever bounds: there is none, or there are too many. -/
inductive Uncounted : List UInt8 → Fault → Prop
  | none : Uncounted [] .noInteger
  | many {bs : List UInt8} (long : 8 < bs.length) : Uncounted bs (.longInteger bs.length)

theorem twosComplement_of_readInt {bs : List UInt8} {n : Int} (h : readInt bs = .ok n) :
    TwosComplement bs n := by
  cases bs with
  | nil => cases h
  | cons b bs =>
    have fits := unsignedFrom_lt (b :: bs)
    have bytes := unsignedBytes_unsignedFrom (b :: bs)
    unfold readInt at h
    generalize unsignedFrom 0 (b :: bs) = m at h fits bytes
    rw [List.length_cons] at h fits bytes
    generalize bs.length = width at h fits bytes
    have power : 256 ^ (width + 1) = 256 * 256 ^ width := by rw [pow_succ, Nat.mul_comm]
    have bound : Nat.pow 256 (width + 1) = 256 ^ (width + 1) := rfl
    obtain ⟨b', bs', heq, lower⟩ := head_unsignedBytes fits
    obtain ⟨rfl, rfl⟩ := List.cons.inj (bytes.symm.trans heq)
    dsimp only at h
    split at h
    · cases h
    · rename_i short
      have value := Except.ok.inj h
      have residue : n % (256 ^ (width + 1) : Nat) = m := by
        split at value
        · rw [← value]
          exact Int.emod_eq_of_lt (by omega) (by omega)
        · rw [← value, bound, Int.sub_emod_right]
          exact Int.emod_eq_of_lt (by omega) (by omega)
      refine ⟨width, by omega, ?_, ?_⟩
      · have same : (n % (Nat.pow 256 (width + 1) : Nat)).toNat = m := by
          rw [bound, residue, Int.toNat_natCast]
        rw [intBytes, same, bytes]
      · split at value <;> omega

/-- **A whole number is read from its two's complement**, and from nothing else. -/
theorem readInt_eq_ok_iff {bs : List UInt8} {n : Int} :
    readInt bs = .ok n ↔ TwosComplement bs n := by
  constructor
  · exact twosComplement_of_readInt
  · rintro ⟨width, narrow, rfl, inside⟩
    exact readInt_intBytes narrow inside

theorem readInt_eq_error_iff {bs : List UInt8} {fault : Fault} :
    readInt bs = .error fault ↔ Uncounted bs fault := by
  constructor
  · intro h
    unfold readInt at h
    split at h
    · obtain rfl := Except.error.inj h
      exact .none
    · split at h
      · rename_i long
        obtain rfl := Except.error.inj h
        exact .many long
      · cases h
  · intro h
    cases h with
    | none => rfl
    | many long =>
      cases bs with
      | nil => cases long
      | cons b bs => rw [readInt, if_pos long]

theorem TwosComplement.unique {bs : List UInt8} {n m : Int} (h : TwosComplement bs n)
    (h' : TwosComplement bs m) : n = m := by
  have first := readInt_eq_ok_iff.mpr h
  rw [readInt_eq_ok_iff.mpr h'] at first
  exact (Except.ok.inj first).symm

/-- Bytes are a whole number of so many bits. -/
structure IsNumber (bits : Nat) (bs : List UInt8) (n : Int) : Prop where
  sent : TwosComplement bs n
  least : -(2 ^ (bits - 1) : Nat) ≤ n
  greatest : n < (2 ^ (bits - 1) : Nat)

/-- Why bytes are no whole number of so many bits. -/
inductive NoNumber (bits : Nat) (bs : List UInt8) : Fault → Prop
  | uncounted {fault : Fault} (uncounted : Uncounted bs fault) : NoNumber bits bs fault
  | tooSmall {n : Int} (sent : TwosComplement bs n) (below : n < -(2 ^ (bits - 1) : Nat)) :
    NoNumber bits bs .tooSmall
  | tooLarge {n : Int} (sent : TwosComplement bs n) (above : (2 ^ (bits - 1) : Nat) ≤ n) :
    NoNumber bits bs .tooLarge

/-- A number that was read is given if it is within the bounds. -/
theorem readIntOf_of_readInt {bits : Nat} {bs : List UInt8} {n : Int} (h : readInt bs = .ok n) :
    readIntOf bits bs = if n < -(2 ^ (bits - 1) : Nat) then .error .tooSmall
      else if (2 ^ (bits - 1) : Nat) ≤ n then .error .tooLarge else .ok n := by
  have bound : Nat.pow 2 (bits - 1) = 2 ^ (bits - 1) := rfl
  have positive : 0 < 2 ^ (bits - 1) := Nat.pow_pos (by decide)
  rw [readIntOf, h]
  simp only [bind, Except.bind, bounded, bound]
  by_cases below : n < -(2 ^ (bits - 1) : Nat)
  · rw [if_neg (by omega), if_pos below]
    simp only [if_pos (by omega : n < 0)]
  · by_cases above : (2 ^ (bits - 1) : Nat) ≤ n
    · rw [if_neg (by omega), if_neg below, if_pos above]
      simp only [if_neg (by omega : ¬n < 0)]
    · rw [if_pos (by omega), if_neg below, if_neg above]

theorem readIntOf_eq_ok_iff {bits : Nat} {bs : List UInt8} {n : Int} :
    readIntOf bits bs = .ok n ↔ IsNumber bits bs n := by
  cases hr : readInt bs with
  | error fault =>
    rw [readIntOf, hr]
    refine iff_of_false nofun fun number => ?_
    rw [readInt_eq_ok_iff.mpr number.sent] at hr
    cases hr
  | ok m =>
    have sent := readInt_eq_ok_iff.mp hr
    rw [readIntOf_of_readInt hr]
    constructor
    · intro h
      split_ifs at h with below above
      obtain rfl := Except.ok.inj h
      exact ⟨sent, Int.not_lt.mp below, Int.not_le.mp above⟩
    · intro number
      obtain rfl := sent.unique number.sent
      rw [if_neg (Int.not_lt.mpr number.least), if_neg (Int.not_le.mpr number.greatest)]

/-- A type with as many bits as are sent has room for what is sent. -/
theorem readIntOf_intBytes {width : Nat} {n : Int} (hw : width < 8)
    (h : -(128 * 256 ^ width : Nat) ≤ n ∧ n < (128 * 256 ^ width : Nat)) :
    readIntOf (8 * (width + 1)) (intBytes (width + 1) n) = .ok n :=
  readIntOf_eq_ok_iff.mpr
    ⟨⟨width, hw, rfl, h⟩, two_pow_bits width ▸ h.1, two_pow_bits width ▸ h.2⟩

theorem readIntOf_eq_error_iff {bits : Nat} {bs : List UInt8} {fault : Fault} :
    readIntOf bits bs = .error fault ↔ NoNumber bits bs fault := by
  cases hr : readInt bs with
  | error fault' =>
    have uncounted := readInt_eq_error_iff.mp hr
    rw [readIntOf, hr]
    constructor
    · intro h
      exact .uncounted (Except.error.inj h ▸ uncounted)
    · intro h
      cases h with
      | uncounted other => exact hr.symm.trans (readInt_eq_error_iff.mpr other)
      | tooSmall sent =>
        rw [readInt_eq_ok_iff.mpr sent] at hr
        cases hr
      | tooLarge sent =>
        rw [readInt_eq_ok_iff.mpr sent] at hr
        cases hr
  | ok m =>
    have sent := readInt_eq_ok_iff.mp hr
    have positive : 0 < 2 ^ (bits - 1) := Nat.pow_pos (by decide)
    rw [readIntOf_of_readInt hr]
    constructor
    · intro h
      split_ifs at h with below above
      · exact Except.error.inj h ▸ .tooSmall sent below
      · exact Except.error.inj h ▸ .tooLarge sent above
    · intro h
      cases h with
      | uncounted uncounted =>
        rw [readInt_eq_error_iff.mpr uncounted] at hr
        cases hr
      | tooSmall sent' below =>
        obtain rfl := sent.unique sent'
        rw [if_pos below]
      | tooLarge sent' above =>
        obtain rfl := sent.unique sent'
        rw [if_neg (by omega), if_pos above]

/-! ### Other values -/

theorem readBool_boolBytes (b : Bool) : readBool (boolBytes b) = .ok b := by
  cases b <;> rfl

/-- A text is read from its bytes, and from nothing else. -/
theorem readText_eq_ok_iff {bs : List UInt8} {s : String} :
    readText bs = .ok s ↔ bs = Text.bytes s := by
  have decoded : readText bs = .ok s ↔ Utf8.decode bs = .ok s.toList := by
    rw [readText]
    cases Utf8.decode bs with
    | error fault => exact iff_of_false nofun nofun
    | ok cs => rw [Except.ok.injEq, Except.ok.injEq, ← String.toList_inj, String.toList_ofList]
  rw [decoded, Utf8.decode_eq_ok_iff, Utf8.bytes_eq]

theorem readText_textBytes (s : String) : readText (textBytes s) = .ok s :=
  readText_eq_ok_iff.mpr rfl

theorem readText_eq_error_iff {bs : List UInt8} {fault : Fault} :
    readText bs = .error fault ↔ ∃ broken, Utf8.Breaks bs broken ∧ fault = .noText broken := by
  simp only [← Utf8.decode_eq_error_iff]
  rw [readText]
  cases Utf8.decode bs <;> simp [eq_comm]

theorem readInstant_eq_ok_iff {bs : List UInt8} {t : Instant} : readInstant bs = .ok t ↔
    ∃ us, TwosComplement bs us ∧
      Instant.ofMicros? (us + 1000000 * Instant.storeEpoch) = some t := by
  simp only [← readInt_eq_ok_iff]
  rw [readInstant, bind_eq_ok_iff]
  refine exists_congr fun us => and_congr_right fun _ => ?_
  cases Instant.ofMicros? (us + 1000000 * Instant.storeEpoch) <;> simp

theorem readInstant_eq_error_iff {bs : List UInt8} {fault : Fault} :
    readInstant bs = .error fault ↔ Uncounted bs fault ∨ ∃ us, TwosComplement bs us ∧
      Instant.ofMicros? (us + 1000000 * Instant.storeEpoch) = none ∧ fault = .noInstant := by
  simp only [← readInt_eq_ok_iff, ← readInt_eq_error_iff]
  rw [readInstant]
  cases readInt bs with
  | error fault' => simp [bind, Except.bind]
  | ok us =>
    simp only [bind, Except.bind, Except.ok.injEq, reduceCtorEq, false_or, exists_eq_left']
    cases Instant.ofMicros? (us + 1000000 * Instant.storeEpoch) <;> simp [eq_comm]

/-- The hexadecimal digits of bytes. -/
def hex (bs : List UInt8) : List Char := bs.flatMap hexByte

/-- The bytes of a UUID, in its five groups. -/
structure IsUuid (bs a b c d e : List UInt8) : Prop where
  split : bs = a ++ b ++ c ++ d ++ e
  sizes : [a, b, c, d, e].map List.length = [4, 2, 2, 2, 6]

/-- A UUID is read from sixteen bytes as five groups of hexadecimal digits. -/
theorem uuidText_eq_ok_iff {bs : List UInt8} {s : String} : uuidText bs = .ok s ↔
    ∃ a b c d e, IsUuid bs a b c d e ∧ s = String.ofList
      (hex a ++ '-' :: hex b ++ '-' :: hex c ++ '-' :: hex d ++ '-' :: hex e) := by
  unfold uuidText
  constructor
  · intro h
    split at h
    · rename_i size
      refine ⟨bs.take 4, (bs.drop 4).take 2, (bs.drop 6).take 2, (bs.drop 8).take 2,
        (bs.drop 10).take 6, ⟨?_, ?_⟩, (Except.ok.inj h).symm⟩
      · rw [← List.take_add, ← List.take_add, ← List.take_add, ← List.take_add]
        exact (List.take_of_length_le (Nat.le_of_eq size)).symm
      · simp [size]
    · cases h
  · rintro ⟨a, b, c, d, e, ⟨rfl, sizes⟩, rfl⟩
    simp only [List.map_cons, List.map_nil, List.cons.injEq, and_true] at sizes
    obtain ⟨ha, hb, hc, hd, he⟩ := sizes
    simp (disch := omega) [hex, List.drop_append, List.drop_of_length_le, List.take_of_length_le,
      ha, hb, hc, hd, he]

theorem uuidText_eq_error_iff {bs : List UInt8} {fault : Fault} :
    uuidText bs = .error fault ↔ bs.length ≠ 16 ∧ fault = .uuidSize bs.length := by
  rw [uuidText]
  split <;> simp_all [eq_comm]

end Wire

/-! ### Kinds of values -/

namespace ColumnKind

/-- What the bytes of a value of a kind are read as. A truth value is false for the byte zero, and
no further byte is looked at; a point in time is sent as its microseconds since 2000. -/
def Shows : ColumnKind → List UInt8 → String → Prop
  | .bool, bs, s => ∃ b rest, bs = b :: rest ∧ s = if b = 0 then "false" else "true"
  | .int2, bs, s => ∃ n, Wire.IsNumber 16 bs n ∧ s = Decimal.write n
  | .int4, bs, s => ∃ n, Wire.IsNumber 32 bs n ∧ s = Decimal.write n
  | .int8, bs, s => ∃ n, Wire.IsNumber 64 bs n ∧ s = Decimal.write n
  | .text, bs, s => bs = Text.bytes s
  | .instant, bs, s => ∃ us t, Wire.TwosComplement bs us ∧
    Instant.ofMicros? (us + 1000000 * Instant.storeEpoch) = some t ∧ s = Rfc3339.micros t
  | .uuid, bs, s => ∃ a b c d e, Wire.IsUuid bs a b c d e ∧ s = String.ofList
    (Wire.hex a ++ '-' :: Wire.hex b ++ '-' :: Wire.hex c ++ '-' :: Wire.hex d ++ '-' :: Wire.hex e)

/-- Why bytes are no value of a kind. -/
def Refuses : ColumnKind → List UInt8 → Wire.Fault → Prop
  | .bool, bs, fault => bs = [] ∧ fault = .noTruthValue
  | .int2, bs, fault => Wire.NoNumber 16 bs fault
  | .int4, bs, fault => Wire.NoNumber 32 bs fault
  | .int8, bs, fault => Wire.NoNumber 64 bs fault
  | .text, bs, fault => ∃ broken, Utf8.Breaks bs broken ∧ fault = .noText broken
  | .instant, bs, fault => Wire.Uncounted bs fault ∨ ∃ us, Wire.TwosComplement bs us ∧
    Instant.ofMicros? (us + 1000000 * Instant.storeEpoch) = none ∧ fault = .noInstant
  | .uuid, bs, fault => bs.length ≠ 16 ∧ fault = .uuidSize bs.length

end ColumnKind

namespace Row

variable {kind : ColumnKind} {bs : List UInt8} {s : String} {fault : Wire.Fault}

/-- **What a value is read as.** -/
theorem textOf_eq_ok_iff : textOf kind bs = .ok s ↔ kind.Shows bs s := by
  have number {bits : Nat} : (Wire.readIntOf bits bs).map Decimal.write = .ok s ↔
      ∃ n, Wire.IsNumber bits bs n ∧ s = Decimal.write n := by
    simp only [map_eq_ok_iff, Wire.readIntOf_eq_ok_iff]
    exact exists_congr fun n => and_congr_right fun _ => eq_comm
  cases kind with
  | bool =>
    cases bs with
    | nil => exact iff_of_false nofun fun ⟨_, _, given, _⟩ => nomatch given
    | cons b bs =>
      have shown : textOf .bool (b :: bs) = .ok (if b = 0 then "false" else "true") := by
        by_cases zero : b = 0 <;> simp [textOf, Wire.readBool, Except.map, zero]
      rw [shown, Except.ok.injEq]
      constructor
      · exact fun h => ⟨b, bs, rfl, h.symm⟩
      · rintro ⟨b', bs', given, rfl⟩
        obtain ⟨rfl, rfl⟩ := List.cons.inj given
        rfl
  | int2 => exact number
  | int4 => exact number
  | int8 => exact number
  | text => exact Wire.readText_eq_ok_iff
  | instant =>
    simp only [textOf, ColumnKind.Shows, map_eq_ok_iff, Wire.readInstant_eq_ok_iff]
    constructor
    · rintro ⟨t, ⟨us, sent, day⟩, rfl⟩
      exact ⟨us, t, sent, day, rfl⟩
    · rintro ⟨us, t, sent, day, rfl⟩
      exact ⟨t, ⟨us, sent, day⟩, rfl⟩
  | uuid => exact Wire.uuidText_eq_ok_iff

/-- **Which values are not read**, and what is said of them. -/
theorem textOf_eq_error_iff : textOf kind bs = .error fault ↔ kind.Refuses bs fault := by
  cases kind with
  | bool =>
    refine map_eq_error_iff.trans ?_
    cases bs <;> simp [Wire.readBool, ColumnKind.Refuses, eq_comm]
  | int2 => exact map_eq_error_iff.trans Wire.readIntOf_eq_error_iff
  | int4 => exact map_eq_error_iff.trans Wire.readIntOf_eq_error_iff
  | int8 => exact map_eq_error_iff.trans Wire.readIntOf_eq_error_iff
  | text => exact Wire.readText_eq_error_iff
  | instant => exact map_eq_error_iff.trans Wire.readInstant_eq_error_iff
  | uuid => exact Wire.uuidText_eq_error_iff

end Row
end RecordSync
