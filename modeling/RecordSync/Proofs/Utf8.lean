import Mathlib
import RecordSync.Text.Utf8

/-!
# Strict reading of UTF-8

The bytes of characters are read as these characters, piece by piece, and whatever is read as
characters are their bytes. For the second half a character of several bytes is followed byte by
byte: `Partial.Stands` says to which characters the bytes so far may lead. Other bytes are a fault,
which tells after how many bytes of characters it comes.

Key definitions: `Utf8.Partial.Stands`, `Utf8.Breaks`.
Key theorems: `Utf8.pieces_encode`, `Utf8.bytes_of_piecesFrom`, `Utf8.decode_eq_ok_iff`,
`Utf8.decode_eq_error_iff`.
-/
namespace RecordSync
namespace Utf8

/-! ### Reading back what is written -/

theorem toNat_byte {n : Nat} (h : n < 256) : (UInt8.ofNat n).toNat = n := by
  simp [Nat.mod_eq_of_lt h]

theorem piecesFrom_ascii {n : Nat} (h : n < 0x80) (bs : List UInt8) :
    piecesFrom none (UInt8.ofNat n :: bs) = .char (Char.ofNat n) :: piecesFrom none bs := by
  simp [piecesFrom, step, begin, Nat.mod_eq_of_lt (by omega : n < 256), h]

theorem piecesFrom_start {n : Nat} {p : Partial} (h : 0x80 ≤ n ∧ n < 256) (hp : start? n = some p)
    (bs : List UInt8) : piecesFrom none (UInt8.ofNat n :: bs) = piecesFrom (some p) bs := by
  have : ¬n < 0x80 := by omega
  simp [piecesFrom, step, begin, Nat.mod_eq_of_lt h.2, this, hp]

theorem piecesFrom_more {n : Nat} {p : Partial} (h : p.least ≤ n ∧ n ≤ p.greatest) (hn : n < 256)
    (hl : p.later ≠ 0) (bs : List UInt8) :
    piecesFrom (some p) (UInt8.ofNat n :: bs) =
      piecesFrom (some ⟨p.taken + 1, 64 * p.bits + (n - 0x80), 0x80, 0xBF, p.later - 1⟩) bs := by
  simp [piecesFrom, step, Nat.mod_eq_of_lt hn, h, hl]

theorem piecesFrom_last {n : Nat} {p : Partial} (h : p.least ≤ n ∧ n ≤ p.greatest) (hn : n < 256)
    (hl : p.later = 0) (bs : List UInt8) :
    piecesFrom (some p) (UInt8.ofNat n :: bs) =
      .char (Char.ofNat (64 * p.bits + (n - 0x80))) :: piecesFrom none bs := by
  simp [piecesFrom, step, Nat.mod_eq_of_lt hn, h, hl]

theorem piecesFrom_two {v : Nat} (h : 0x80 ≤ v ∧ v ≤ 0x7FF) (bs : List UInt8) :
    piecesFrom none (UInt8.ofNat (v / 64 % 32 + 192) :: UInt8.ofNat (v % 64 + 128) :: bs) =
      .char (Char.ofNat v) :: piecesFrom none bs := by
  have hs : start? (v / 64 % 32 + 192) = some ⟨1, v / 64, 0x80, 0xBF, 0⟩ := by
    rw [start?, if_pos (by omega)]
    simp; omega
  have value : 64 * (v / 64) + (v % 64 + 128 - 0x80) = v := by omega
  rw [piecesFrom_start (by omega) hs, piecesFrom_last (by simp; omega) (by omega) rfl, value]

theorem start?_three {v : Nat} (h : 0x800 ≤ v ∧ v ≤ 0xFFFF) :
    start? (v / 4096 % 16 + 224) = some ⟨1, v / 4096, if v < 0x1000 then 0xA0 else 0x80,
      if 0xD000 ≤ v ∧ v < 0xE000 then 0x9F else 0xBF, 1⟩ := by
  unfold start?
  grind

theorem start?_four {v : Nat} (h : 0x10000 ≤ v ∧ v < 0x110000) :
    start? (v / 262144 % 8 + 240) = some ⟨1, v / 262144, if v < 0x40000 then 0x90 else 0x80,
      if 0x100000 ≤ v then 0x8F else 0xBF, 2⟩ := by
  unfold start?
  grind

theorem piecesFrom_three {v : Nat} (h : 0x800 ≤ v ∧ v ≤ 0xFFFF) (hv : v < 0xD800 ∨ 0xDFFF < v)
    (bs : List UInt8) :
    piecesFrom none (UInt8.ofNat (v / 4096 % 16 + 224) :: UInt8.ofNat (v / 64 % 64 + 128) ::
      UInt8.ofNat (v % 64 + 128) :: bs) = .char (Char.ofNat v) :: piecesFrom none bs := by
  have value : 64 * (64 * (v / 4096) + (v / 64 % 64 + 128 - 0x80)) + (v % 64 + 128 - 0x80) = v := by
    omega
  rw [piecesFrom_start (by omega) (start?_three h), piecesFrom_more (by grind) (by omega) (by simp),
    piecesFrom_last (by simp; omega) (by omega) rfl, value]

theorem piecesFrom_four {v : Nat} (h : 0x10000 ≤ v ∧ v < 0x110000) (bs : List UInt8) :
    piecesFrom none (UInt8.ofNat (v / 262144 % 8 + 240) :: UInt8.ofNat (v / 4096 % 64 + 128) ::
      UInt8.ofNat (v / 64 % 64 + 128) :: UInt8.ofNat (v % 64 + 128) :: bs) =
      .char (Char.ofNat v) :: piecesFrom none bs := by
  have value : 64 * (64 * (64 * (v / 262144) + (v / 4096 % 64 + 128 - 0x80)) +
      (v / 64 % 64 + 128 - 0x80)) + (v % 64 + 128 - 0x80) = v := by
    omega
  rw [piecesFrom_start (by omega) (start?_four h), piecesFrom_more (by grind) (by omega) (by simp),
    piecesFrom_more (by simp; omega) (by omega) (by simp),
    piecesFrom_last (by simp; omega) (by omega) rfl, value]

/-- The bytes of a character are one piece. -/
theorem piecesFrom_encode (c : Char) (bs : List UInt8) :
    piecesFrom none (String.utf8EncodeChar c ++ bs) = .char c :: piecesFrom none bs := by
  have valid : c.toNat < 0xD800 ∨ 0xDFFF < c.toNat ∧ c.toNat < 0x110000 := c.valid
  have same : Char.ofNat c.toNat = c := Char.ofNat_toNat c
  unfold String.utf8EncodeChar
  change piecesFrom none ((if c.toNat ≤ 127 then _ else if c.toNat ≤ 2047 then _ else
    if c.toNat ≤ 65535 then _ else _) ++ bs) = _
  split
  · simpa [same] using piecesFrom_ascii (by omega : c.toNat < 0x80) bs
  · split
    · simpa [same] using piecesFrom_two (by omega : 0x80 ≤ c.toNat ∧ c.toNat ≤ 0x7FF) bs
    · split
      · simpa [same] using
          piecesFrom_three (by omega : 0x800 ≤ c.toNat ∧ c.toNat ≤ 0xFFFF) (by omega) bs
      · simpa [same] using
          piecesFrom_four (by omega : 0x10000 ≤ c.toNat ∧ c.toNat < 0x110000) bs

theorem pieces_encode (cs : List Char) :
    pieces (cs.flatMap String.utf8EncodeChar) = cs.map Piece.char := by
  unfold pieces
  induction cs with
  | nil => rfl
  | cons c cs ih => rw [List.flatMap_cons, piecesFrom_encode, ih]; rfl

theorem charsOf_map (index : Nat) (cs : List Char) :
    charsOf index (cs.map Piece.char) = .ok cs := by
  induction cs generalizing index with
  | nil => rfl
  | cons c cs ih => simp [charsOf, ih, Except.map]

theorem bytes_eq (s : String) : Text.bytes s = s.toList.flatMap String.utf8EncodeChar := by
  have := congrArg String.toByteArray (String.ofList_toList (s := s))
  rw [String.toByteArray_ofList] at this
  simp [Text.bytes, ← this, List.utf8Encode]

/-! ### Characters under way -/

/-- The last bytes of a character of several bytes: each has six bits of its number. -/
def lastBytes : Nat → Nat → List UInt8
  | 0, _ => []
  | k + 1, v => UInt8.ofNat (v / 64 ^ k % 64 + 128) :: lastBytes k v

/-- The bytes `taken` lead to every character whose number starts with their bits and goes on within
the bounds. -/
structure Partial.Stands (p : Partial) (taken : List UInt8) : Prop where
  bounds : 0x80 ≤ p.least ∧ p.greatest ≤ 0xBF
  encode {v : Nat} (bits : v / 64 ^ (p.later + 1) = p.bits)
    (least : p.least ≤ v / 64 ^ p.later % 64 + 128)
    (greatest : v / 64 ^ p.later % 64 + 128 ≤ p.greatest) :
    String.utf8EncodeChar (Char.ofNat v) = taken ++ lastBytes (p.later + 1) v

theorem ofNat_eq_of_toNat {b : UInt8} {n : Nat} (h : b.toNat = n) : UInt8.ofNat n = b := by
  rw [← h, UInt8.ofNat_toNat]

theorem encode_ofNat {v : Nat} (valid : v.isValidChar) : String.utf8EncodeChar (Char.ofNat v) =
    if v ≤ 127 then [UInt8.ofNat v]
    else if v ≤ 2047 then [UInt8.ofNat (v / 64 % 32 + 192), UInt8.ofNat (v % 64 + 128)]
    else if v ≤ 65535 then [UInt8.ofNat (v / 4096 % 16 + 224), UInt8.ofNat (v / 64 % 64 + 128),
      UInt8.ofNat (v % 64 + 128)]
    else [UInt8.ofNat (v / 262144 % 8 + 240), UInt8.ofNat (v / 4096 % 64 + 128),
      UInt8.ofNat (v / 64 % 64 + 128), UInt8.ofNat (v % 64 + 128)] := by
  have number : (Char.ofNat v).val.toNat = v := by
    rw [Char.ofNat, dif_pos valid]
    rfl
  unfold String.utf8EncodeChar
  simp only [number]

theorem encode_two {v : Nat} {b : UInt8} (first : b.toNat = v / 64 + 192)
    (h : 0x80 ≤ v ∧ v ≤ 0x7FF) : String.utf8EncodeChar (Char.ofNat v) = b :: lastBytes 1 v := by
  have valid : v.isValidChar := by unfold Nat.isValidChar; omega
  rw [encode_ofNat valid, if_neg (by omega), if_pos h.2, ofNat_eq_of_toNat (b := b) (by omega)]
  simp only [lastBytes, pow_zero, Nat.div_one]

theorem encode_three {v : Nat} {b : UInt8} (first : b.toNat = v / 4096 + 224)
    (h : 0x800 ≤ v ∧ v ≤ 0xFFFF) (hv : v < 0xD800 ∨ 0xDFFF < v) :
    String.utf8EncodeChar (Char.ofNat v) = b :: lastBytes 2 v := by
  have valid : v.isValidChar := by unfold Nat.isValidChar; omega
  rw [encode_ofNat valid, if_neg (by omega), if_neg (by omega), if_pos h.2,
    ofNat_eq_of_toNat (b := b) (by omega)]
  simp only [lastBytes, pow_zero, Nat.div_one, pow_one]

theorem encode_four {v : Nat} {b : UInt8} (first : b.toNat = v / 262144 + 240)
    (h : 0x10000 ≤ v ∧ v < 0x110000) :
    String.utf8EncodeChar (Char.ofNat v) = b :: lastBytes 3 v := by
  have valid : v.isValidChar := by unfold Nat.isValidChar; omega
  rw [encode_ofNat valid, if_neg (by omega), if_neg (by omega), if_neg (by omega),
    ofNat_eq_of_toNat (b := b) (by omega)]
  simp only [lastBytes, pow_zero, Nat.div_one, pow_one, Nat.reducePow]

theorem stands_start {b : UInt8} {p : Partial} (h : start? b.toNat = some p) : p.Stands [b] := by
  have byte := b.toNat_lt
  unfold start? at h
  split_ifs at h
  all_goals
    obtain rfl := Option.some.inj h
    refine ⟨by simp, fun {v} bits least greatest => ?_⟩
    norm_num at bits least greatest
  · exact encode_two (by omega) (by omega)
  · exact encode_three (by omega) (by omega) (by omega)
  · exact encode_three (by omega) (by omega) (by omega)
  · exact encode_three (by omega) (by omega) (by omega)
  · exact encode_four (by omega) (by omega)
  · exact encode_four (by omega) (by omega)
  · exact encode_four (by omega) (by omega)

/-- One more byte within the bounds goes on with the character. -/
theorem Partial.Stands.more {p : Partial} {taken : List UInt8} {b : UInt8} (stands : p.Stands taken)
    (inside : p.least ≤ b.toNat ∧ b.toNat ≤ p.greatest) (more : p.later ≠ 0) : Partial.Stands
      { taken := p.taken + 1, bits := 64 * p.bits + (b.toNat - 0x80), later := p.later - 1 }
      (taken ++ [b]) where
  bounds := ⟨Nat.le_refl _, Nat.le_refl _⟩
  encode {v} bits _ _ := by
    have bounds := stands.bounds
    dsimp only at bits
    rw [Nat.sub_add_cancel (Nat.pos_of_ne_zero more)] at bits ⊢
    have sextet : v / 64 ^ p.later % 64 + 128 = b.toNat := by omega
    have whole : v / 64 ^ (p.later + 1) = p.bits := by
      rw [pow_succ, ← Nat.div_div_eq_div_mul]
      omega
    rw [stands.encode whole (by omega) (by omega), lastBytes, sextet, UInt8.ofNat_toNat,
      List.append_assoc, List.singleton_append]

/-- The last byte completes the character. -/
theorem Partial.Stands.last {p : Partial} {taken : List UInt8} {b : UInt8} (stands : p.Stands taken)
    (inside : p.least ≤ b.toNat ∧ b.toNat ≤ p.greatest) (done : p.later = 0) :
    String.utf8EncodeChar (Char.ofNat (64 * p.bits + (b.toNat - 0x80))) = taken ++ [b] := by
  have encode := stands.encode (v := 64 * p.bits + (b.toNat - 0x80))
  simp only [done, zero_add, pow_one, pow_zero, Nat.div_one, lastBytes] at encode
  have bounds := stands.bounds
  have sextet : (64 * p.bits + (b.toNat - 0x80)) % 64 + 128 = b.toNat := by omega
  rw [sextet, UInt8.ofNat_toNat] at encode
  exact encode (by omega) inside.1 inside.2

/-! ### Bytes that are read as characters -/

/-- The bytes of the character that is under way, if one is. -/
def Under (under : Option Partial) (taken : List UInt8) : Prop :=
  match under with
  | none => taken = []
  | some p => p.Stands taken

/-- Between characters, the next byte is one or leads to one. -/
theorem bytes_of_begin {b : UInt8} {cs : List Char} {bs : List UInt8}
    (ih : ∀ (under : Option Partial) (taken : List UInt8) (cs : List Char), Under under taken →
      piecesFrom under bs = cs.map Piece.char → taken ++ bs = cs.flatMap String.utf8EncodeChar)
    (h : (begin b.toNat).1 ++ piecesFrom (begin b.toNat).2 bs = cs.map Piece.char) :
    b :: bs = cs.flatMap String.utf8EncodeChar := by
  unfold begin at h
  split at h
  · rename_i ascii
    obtain ⟨c, rest, rfl⟩ : ∃ c rest, cs = c :: rest := by
      cases cs with
      | nil => simp at h
      | cons c rest => exact ⟨c, rest, rfl⟩
    obtain ⟨hc, hr⟩ := List.cons.inj h
    obtain rfl := Piece.char.inj hc
    have more : [] ++ bs = _ := ih none [] rest rfl hr
    have valid : b.toNat.isValidChar := by unfold Nat.isValidChar; omega
    rw [List.flatMap_cons, ← more, encode_ofNat valid, if_pos (by omega), UInt8.ofNat_toNat]
    rfl
  · cases hs : start? b.toNat with
    | some p =>
      rw [hs] at h
      exact ih (some p) [b] cs (stands_start hs) h
    | none =>
      rw [hs] at h
      cases cs <;> simp at h

/-- Pieces that are all characters come from the bytes of these. -/
theorem bytes_of_piecesFrom {under : Option Partial} {taken bs : List UInt8} {cs : List Char}
    (stands : Under under taken) (h : piecesFrom under bs = cs.map Piece.char) :
    taken ++ bs = cs.flatMap String.utf8EncodeChar := by
  induction bs generalizing under taken cs with
  | nil =>
    cases under with
    | none =>
      obtain rfl : taken = [] := stands
      obtain rfl : cs = [] := by simpa [piecesFrom, eq_comm] using h
      rfl
    | some p => cases cs <;> simp [piecesFrom] at h
  | cons b bs ih =>
    rw [piecesFrom] at h
    cases under with
    | none =>
      obtain rfl : taken = [] := stands
      exact bytes_of_begin (fun _ _ _ => ih) h
    | some p =>
      have stands : p.Stands taken := stands
      unfold step at h
      dsimp only at h
      by_cases inside : p.least ≤ b.toNat ∧ b.toNat ≤ p.greatest
      · rw [if_pos inside] at h
        by_cases done : p.later = 0
        · rw [if_pos done] at h
          cases cs with
          | nil => simp at h
          | cons c rest =>
            obtain ⟨hc, hr⟩ := List.cons.inj h
            obtain rfl := Piece.char.inj hc
            have more : [] ++ bs = _ := ih (show Under none [] from rfl) hr
            rw [List.flatMap_cons, stands.last inside done, ← more, List.append_assoc]
            rfl
        · rw [if_neg done] at h
          have more := ih (show Under (some _) _ from stands.more inside done) h
          rwa [List.append_assoc, List.singleton_append] at more
      · rw [if_neg inside] at h
        cases cs <;> simp at h

/-! ### Characters or a fault -/

theorem charsOf_eq_ok_iff {index : Nat} {ps : List Piece} {cs : List Char} :
    charsOf index ps = .ok cs ↔ ps = cs.map Piece.char := by
  constructor
  · intro h
    induction ps generalizing index cs with
    | nil =>
      obtain rfl := Except.ok.inj h
      rfl
    | cons p ps ih =>
      cases p with
      | broken length => cases h
      | cut length => cases h
      | char c =>
        rw [charsOf] at h
        cases hr : charsOf (index + c.utf8Size) ps with
        | error fault =>
          rw [hr] at h
          cases h
        | ok rest =>
          rw [hr] at h
          obtain rfl := Except.ok.inj h
          rw [List.map_cons, ← ih hr]
  · rintro rfl
    exact charsOf_map index cs

/-- **Strict reading undoes the writing of text**, and gives nothing for other bytes. -/
theorem decode_eq_ok_iff {bs : List UInt8} {cs : List Char} :
    decode bs = .ok cs ↔ bs = cs.flatMap String.utf8EncodeChar := by
  rw [decode, charsOf_eq_ok_iff]
  constructor
  · intro h
    exact bytes_of_piecesFrom (show Under none [] from rfl) h
  · rintro rfl
    exact pieces_encode cs

/-- Why bytes are no text: after the bytes of some characters come bytes that are no character, or
the end cuts a character off. -/
inductive Breaks (bs : List UInt8) : Fault → Prop
  | invalid {cs : List Char} {length : Nat} {rest : List Piece}
    (split : pieces bs = cs.map .char ++ .broken length :: rest) :
    Breaks bs (.invalid length (cs.flatMap String.utf8EncodeChar).length)
  | incomplete {cs : List Char} {length : Nat} {rest : List Piece}
    (split : pieces bs = cs.map .char ++ .cut length :: rest) :
    Breaks bs (.incomplete (cs.flatMap String.utf8EncodeChar).length)

/-- The fault that a piece is, at an index. -/
def Piece.fault? (index : Nat) : Piece → Option Fault
  | .char _ => none
  | .broken length => some (.invalid length index)
  | .cut _ => some (.incomplete index)

theorem charsOf_eq_error_iff {index : Nat} {ps : List Piece} {fault : Fault} :
    charsOf index ps = .error fault ↔ ∃ (cs : List Char) (p : Piece) (rest : List Piece),
      ps = cs.map Piece.char ++ p :: rest ∧
        p.fault? (index + (cs.flatMap String.utf8EncodeChar).length) = some fault := by
  induction ps generalizing index with
  | nil => simp [charsOf]
  | cons p ps ih =>
    cases hp : p.fault? index with
    | some first =>
      have stops : charsOf index (p :: ps) = .error first := by
        cases p <;> simp_all [charsOf, Piece.fault?]
      rw [stops, Except.error.injEq]
      constructor
      · rintro rfl
        exact ⟨[], p, ps, rfl, hp⟩
      · rintro ⟨cs, p', rest, split, bad⟩
        cases cs with
        | nil =>
          obtain ⟨rfl, rfl⟩ := List.cons.inj split
          exact Option.some.inj (hp.symm.trans bad)
        | cons c cs =>
          obtain ⟨rfl, -⟩ := List.cons.inj split
          cases hp
    | none =>
      obtain ⟨c, rfl⟩ : ∃ c, p = .char c := by cases p <;> simp_all [Piece.fault?]
      have step : charsOf index (.char c :: ps) = .error fault ↔
          charsOf (index + c.utf8Size) ps = .error fault := by
        rw [charsOf]
        cases charsOf (index + c.utf8Size) ps <;> simp [Except.map]
      rw [step, ih]
      constructor
      · rintro ⟨cs, p, rest, rfl, bad⟩
        refine ⟨c :: cs, p, rest, rfl, ?_⟩
        rwa [List.flatMap_cons, List.length_append, String.length_utf8EncodeChar, ← Nat.add_assoc]
      · rintro ⟨cs, p, rest, split, bad⟩
        cases cs with
        | nil =>
          obtain ⟨rfl, rfl⟩ := List.cons.inj split
          cases bad
        | cons c' cs =>
          obtain ⟨hc, rfl⟩ := List.cons.inj split
          obtain rfl := Piece.char.inj hc
          refine ⟨cs, p, rest, rfl, ?_⟩
          rwa [List.flatMap_cons, List.length_append, String.length_utf8EncodeChar,
            ← Nat.add_assoc] at bad

theorem decode_eq_error_iff {bs : List UInt8} {fault : Fault} :
    decode bs = .error fault ↔ Breaks bs fault := by
  rw [decode, charsOf_eq_error_iff]
  constructor
  · rintro ⟨cs, p, rest, split, bad⟩
    rw [Nat.zero_add] at bad
    cases p with
    | char c => cases bad
    | broken length =>
      obtain rfl := Option.some.inj bad
      exact .invalid split
    | cut length =>
      obtain rfl := Option.some.inj bad
      exact .incomplete split
  · intro breaks
    cases breaks with
    | invalid split => exact ⟨_, _, _, split, by rw [Nat.zero_add]; rfl⟩
    | incomplete split => exact ⟨_, _, _, split, by rw [Nat.zero_add]; rfl⟩

end Utf8
end RecordSync
