import RecordSync.Proofs.Config.Layering
import RecordSync.Proofs.Decoding
import RecordSync.Proofs.Storage.Cells

/-!
# Whole numbers keep their value

A whole number goes through texts: one that the store sends is written into a record and read again
as the id of a user, and a setting is read from what a variable is set to. On the way each number is
what its digits stand for, with any number of zeros in front and with the signs that the place
allows. A number that has no room where it is to go is none at all: it does not come back as another
one.

Key definitions: `Field.Holds`, `Row.GivesUserId`, `Config.Readable`.
Key theorems: `Record.userId?_eq_some_iff`, `Row.givesUserId_of_reads`,
`Config.firstInvalid_badConnections_iff`, `numbers_keep_their_value`.
-/
namespace RecordSync

/-! ### Ids of users -/

section

variable {u : UserId} {n : Int} {r : Record}

theorem UserId.ofInt?_eq_some_iff : ofInt? n = some u ↔ u.value = n := by
  unfold ofInt?
  split
  · rw [Option.some.injEq]
    exact ⟨fun h => h ▸ rfl, fun h => by cases u; cases h; rfl⟩
  · rename_i out
    simp only [reduceCtorEq, false_iff]
    exact fun h => out (h ▸ u.inRange)

theorem UserId.read?_eq_some_iff {s : String} : read? s = some u ↔ Decimal.Signed s u.value := by
  rw [read?, Option.bind_eq_some_iff]
  simp only [ofInt?_eq_some_iff, Decimal.readSigned?_eq_some_iff, exists_eq_right']
  exact and_iff_left u.inRange

theorem Record.userId?_eq_some_iff :
    r.userId? = some u ↔ ∃ s, r.get? "user_id" = some s ∧ Decimal.Signed s u.value := by
  rw [userId?, Option.bind_eq_some_iff]
  simp only [UserId.read?_eq_some_iff]

/-- An id is a number of 32 bits that the text under its column stands for. -/
theorem Record.value_userId?_eq_some_iff : r.userId?.map UserId.value = some n ↔
    ∃ s, r.get? "user_id" = some s ∧ Decimal.Signed s n ∧ -2147483648 ≤ n ∧ n ≤ 2147483647 := by
  rw [Option.map_eq_some_iff]
  simp only [userId?_eq_some_iff]
  constructor
  · rintro ⟨u, ⟨s, found, spelled⟩, rfl⟩
    exact ⟨s, found, spelled, u.inRange⟩
  · rintro ⟨s, found, spelled, inside⟩
    exact ⟨⟨n, inside⟩, ⟨s, found, spelled⟩, rfl⟩

/-- A number under the column is the id, or there is none because it has more than 32 bits. -/
theorem Record.value_userId?_of_write (written : r.get? "user_id" = some (Decimal.write n)) :
    r.userId?.map UserId.value = if -2147483648 ≤ n ∧ n ≤ 2147483647 then some n else none := by
  refine Option.ext fun m => ?_
  rw [value_userId?_eq_some_iff, written, Option.ite_none_right_eq_some]
  simp only [Option.some.injEq, exists_eq_left', Decimal.signed_write_iff]
  constructor
  · rintro ⟨rfl, inside⟩
    exact ⟨inside, rfl⟩
  · rintro ⟨inside, rfl⟩
    exact ⟨rfl, inside⟩

end

/-! ### Numbers that the store sends -/

/-- A column has a type of whole numbers of so many bytes, and such a number is sent in it. -/
structure Field.Holds (f : Field) (typeName : String) (width : Nat) (n : Int) : Prop where
  type : f.column.typeName = typeName
  low : -(2 ^ (8 * width - 1) : Nat) ≤ n
  high : n < (2 ^ (8 * width - 1) : Nat)
  sent : f.cell = some (Wire.intBytes width n)

namespace Field.Holds

variable {f : Field} {typeName : String} {width : Nat} {n : Int}

/-- A number that is sent is read as its text. -/
theorem reads (h : f.Holds typeName (width + 1) n) (narrow : width < 8) (kind : ColumnKind)
    (known : typeName ∈ kind.typeNames)
    (text : ∀ bs, Row.textOf kind bs = (Wire.readIntOf (8 * (width + 1)) bs).map Decimal.write) :
    f.Reads (some (Decimal.write n)) := by
  have read : Wire.readIntOf (8 * (width + 1)) (Wire.intBytes (width + 1) n) = .ok n :=
    Wire.readIntOf_intBytes narrow (Wire.two_pow_bits width ▸ ⟨h.low, h.high⟩)
  refine .value (h.type ▸ known) h.sent (Row.textOf_eq_ok_iff.mp ?_)
  rw [text, read, Except.map]

/-- Four bytes hold no number that has more than 32 bits. -/
theorem inside (h : f.Holds typeName width n) (narrow : width ≤ 4) :
    -2147483648 ≤ n ∧ n ≤ 2147483647 := by
  have half : 2 ^ (8 * width - 1) ≤ 2 ^ 31 := Nat.pow_le_pow_right (by decide) (by omega)
  have low := h.low
  have high := h.high
  omega

end Field.Holds

namespace Row

variable {row : Row} {f : Field} {n : Int}

/-- Whether the row has a record is up to its other columns, and the id in it is what is said. -/
def GivesUserId (row : Row) (f : Field) (id : Option Int) : Prop :=
  ((∃ r, toRecord row = .ok r) ↔ ∀ g ∈ row, g ≠ f → ∃ s, g.Reads s) ∧
    ∀ r, toRecord row = .ok r → r.userId?.map UserId.value = id

theorem givesUserId_of_reads (last : row.Last "user_id" f)
    (reads : f.Reads (some (Decimal.write n))) :
    row.GivesUserId f (if -2147483648 ≤ n ∧ n ≤ 2147483647 then some n else none) := by
  constructor
  · simp only [toRecord_eq_ok_iff, exists_decodes_iff]
    constructor
    · exact fun all g hg _ => all g hg
    · intro others g hg
      by_cases same : g = f
      · exact ⟨_, same ▸ reads⟩
      · exact others g hg same
  · intro r decoded
    have decodes := toRecord_eq_ok_iff.mp decoded
    exact Record.value_userId?_of_write (decodes.get?_eq_some_iff.mpr ⟨f, last, reads⟩)

theorem givesUserId_of_inside (last : row.Last "user_id" f)
    (reads : f.Reads (some (Decimal.write n))) (inside : -2147483648 ≤ n ∧ n ≤ 2147483647) :
    row.GivesUserId f (some n) := by
  have given := givesUserId_of_reads last reads
  rwa [if_pos inside] at given

end Row

/-! ### Numbers that variables are set to -/

namespace Config

variable {env : Environment} {name raw raw' : String} {base c : Config}

section

variable {α : Type} {reads : String → α → Prop}

/-- A variable that is set is set to what can be read. -/
def Readable (env : Environment) (name : String) (reads : String → α → Prop) : Prop :=
  ∀ raw, SetTo env name raw → ∃ x, reads raw x

theorem readable_iff : Readable env name reads ↔ ∀ raw, ¬Senseless env name reads raw := by
  simp [Readable, Senseless]

end

/-! Complaints tell what they are about: which variable, and what it is set to. -/

theorem badNumber_inj (h : badNumber name raw = badNumber name raw') : raw = raw' := by
  have texts := congrArg String.toList (StoreError.configuration.inj h)
  exact String.toList_inj.mp (by simpa [String.toList_append] using texts)

theorem badConnections_ne_badTimeout :
    badNumber "KEEPSYNC_MAX_CONNECTIONS" raw ≠ badNumber "KEEPSYNC_ACQUIRE_TIMEOUT" raw' := by
  intro h
  have texts := congrArg String.toList (StoreError.configuration.inj h)
  simp [String.toList_append] at texts

theorem badNumber_ne_unknown (capital : name.toList.head? = some 'K') :
    badNumber name raw ≠ MigrationPolicy.unknown raw' := by
  intro h
  have texts := congrArg String.toList (StoreError.configuration.inj h)
  obtain ⟨rest, split⟩ := List.head?_eq_some_iff.mp capital
  simp [String.toList_append, split] at texts

theorem firstInvalid_badConnections_iff :
    FirstInvalid env (badNumber "KEEPSYNC_MAX_CONNECTIONS" raw) ↔
      Senseless env "KEEPSYNC_MAX_CONNECTIONS" (IsNumber 4294967295) raw := by
  constructor
  · intro h
    generalize complaint : badNumber "KEEPSYNC_MAX_CONNECTIONS" raw = e at h
    cases h with
    | connections bad => exact badNumber_inj complaint ▸ bad
    | timeout => exact absurd complaint badConnections_ne_badTimeout
    | policy => exact absurd complaint (badNumber_ne_unknown (by decide))
  · exact .connections

/-- Connections are looked at before the timeout is. -/
theorem firstInvalid_badTimeout_iff :
    FirstInvalid env (badNumber "KEEPSYNC_ACQUIRE_TIMEOUT" raw) ↔
      Readable env "KEEPSYNC_MAX_CONNECTIONS" (IsNumber 4294967295) ∧
        Senseless env "KEEPSYNC_ACQUIRE_TIMEOUT" (IsNumber 18446744073709551615) raw := by
  rw [readable_iff]
  constructor
  · intro h
    generalize complaint : badNumber "KEEPSYNC_ACQUIRE_TIMEOUT" raw = e at h
    cases h with
    | connections => exact absurd complaint.symm badConnections_ne_badTimeout
    | timeout readable bad => exact ⟨readable, badNumber_inj complaint ▸ bad⟩
    | policy => exact absurd complaint (badNumber_ne_unknown (by decide))
  · rintro ⟨readable, bad⟩
    exact .timeout readable bad

/-- There are settings exactly if each of three variables can be read. -/
theorem exists_mergeEnv_iff : (∃ c, base.mergeEnv env = .ok c) ↔
    Readable env "KEEPSYNC_MAX_CONNECTIONS" (IsNumber 4294967295) ∧
      Readable env "KEEPSYNC_ACQUIRE_TIMEOUT" (IsNumber 18446744073709551615) ∧
        Readable env "KEEPSYNC_MIGRATION_POLICY" MigrationPolicy.Named := by
  simp only [readable_iff]
  constructor
  · rintro ⟨c, given⟩
    have layered := mergeEnv_eq_ok_iff.mp given
    exact ⟨fun _ => layered.connections.not_senseless, fun _ => layered.timeout.not_senseless,
      fun _ => layered.policy.not_senseless⟩
  · rintro ⟨connections, timeout, policy⟩
    rcases mergeEnv_cases base env with ⟨e, invalid, -⟩ | ⟨c, -, given⟩
    · obtain ⟨raw, bad | bad | bad⟩ := exists_firstInvalid_iff.mp ⟨e, invalid⟩
      · exact absurd bad (connections raw)
      · exact absurd bad (timeout raw)
      · exact absurd bad (policy raw)
    · exact ⟨c, given⟩

end Config

/-! ### All numbers -/

open Config

/-- **Numbers keep their value or are none.** A number that the store sends as the owner of a row,
in a column of two, four or eight bytes, never stands in the way of a record, and in the record it
is the id of the owner; only a number of eight bytes can be beyond all ids, and then the record has
none. A text is an id exactly if it is digits, with or without a sign in front, and the number that
they stand for has no more than 32 bits. A variable for a number can be read exactly if it is digits
once it is trimmed, with or without a plus sign in front, and the number has no more than 32 or 64
bits; this is then the setting. If it cannot be read there are no settings, and what it is set to is
complained of as it stands, unless another variable comes first. -/
theorem numbers_keep_their_value :
    (∀ (row : Row) (f : Field) (n : Int), row.Last "user_id" f →
      (f.Holds "INT2" 2 n → row.GivesUserId f (some n)) ∧
      (f.Holds "INT4" 4 n → row.GivesUserId f (some n)) ∧
      (f.Holds "INT8" 8 n →
        row.GivesUserId f (if -2147483648 ≤ n ∧ n ≤ 2147483647 then some n else none))) ∧
    (∀ (r : Record) (n : Int), r.userId?.map UserId.value = some n ↔
      ∃ s, r.get? "user_id" = some s ∧ Decimal.Signed s n ∧
        -2147483648 ≤ n ∧ n ≤ 2147483647) ∧
    ∀ (base : Config) (env : Environment),
      ((∃ c, base.mergeEnv env = .ok c) ↔
        Readable env "KEEPSYNC_MAX_CONNECTIONS" (IsNumber 4294967295) ∧
        Readable env "KEEPSYNC_ACQUIRE_TIMEOUT" (IsNumber 18446744073709551615) ∧
        Readable env "KEEPSYNC_MIGRATION_POLICY" MigrationPolicy.Named) ∧
      ∀ raw,
        (SetTo env "KEEPSYNC_MAX_CONNECTIONS" raw →
          (∀ c, base.mergeEnv env = .ok c → IsNumber 4294967295 raw c.maxConnections.toNat) ∧
          (base.mergeEnv env = .error (badNumber "KEEPSYNC_MAX_CONNECTIONS" raw) ↔
            ∀ n, ¬IsNumber 4294967295 raw n)) ∧
        (SetTo env "KEEPSYNC_ACQUIRE_TIMEOUT" raw →
          (∀ c, base.mergeEnv env = .ok c →
            IsNumber 18446744073709551615 raw c.acquireTimeout.toNat) ∧
          (base.mergeEnv env = .error (badNumber "KEEPSYNC_ACQUIRE_TIMEOUT" raw) ↔
            Readable env "KEEPSYNC_MAX_CONNECTIONS" (IsNumber 4294967295) ∧
            ∀ n, ¬IsNumber 18446744073709551615 raw n)) := by
  refine ⟨?_, fun r n => Record.value_userId?_eq_some_iff, ?_⟩
  · intro row f n last
    refine ⟨fun two => ?_, fun four => ?_, fun eight => ?_⟩
    · have reads := two.reads (by decide) .int2 (by decide) fun _ => rfl
      exact Row.givesUserId_of_inside last reads (two.inside (by decide))
    · have reads := four.reads (by decide) .int4 (by decide) fun _ => rfl
      exact Row.givesUserId_of_inside last reads (four.inside (by decide))
    · apply Row.givesUserId_of_reads last
      exact eight.reads (by decide) .int8 (by decide) fun _ => rfl
  · intro base env
    refine ⟨exists_mergeEnv_iff, fun raw => ⟨fun set => ⟨?_, ?_⟩, fun set => ⟨?_, ?_⟩⟩⟩
    · intro c given
      exact (mergeEnv_eq_ok_iff.mp given).connections.said set
    · rw [mergeEnv_eq_error_iff, firstInvalid_badConnections_iff]
      exact and_iff_right set
    · intro c given
      exact (mergeEnv_eq_ok_iff.mp given).timeout.said set
    · rw [mergeEnv_eq_error_iff, firstInvalid_badTimeout_iff]
      exact and_congr_right fun _ => and_iff_right set

/-- The least numbers of two and of four bytes are ids, and the one beyond the largest id is none.
A sign and zeros make no difference. The largest number of connections is taken, between an
ideographic space and a line feed; one more than the longest timeout is complained of, with its
space. -/
theorem numbers_keep_their_value_of_least :
    let id : Field := ⟨⟨"id", "TEXT"⟩, some (Wire.textBytes "a")⟩
    let owner (typeName : String) (width : Nat) (n : Int) : Field :=
      ⟨⟨"user_id", typeName⟩, some (Wire.intBytes width n)⟩
    let env : Environment := fun name =>
      [("KEEPSYNC_MAX_CONNECTIONS", "\u3000+04294967295\n")].lookup name
    let late : Environment := fun name =>
      [("KEEPSYNC_ACQUIRE_TIMEOUT", " 18446744073709551616")].lookup name
    (∃ r, Row.toRecord [id, owner "INT2" 2 (-32768)] = .ok r ∧
      r.userId?.map UserId.value = some (-32768)) ∧
    (∃ r, Row.toRecord [id, owner "INT4" 4 (-2147483648)] = .ok r ∧
      r.userId?.map UserId.value = some (-2147483648)) ∧
    (∃ r, Row.toRecord [id, owner "INT8" 8 2147483648] = .ok r ∧
      r.userId?.map UserId.value = none) ∧
    (Record.ofList [("user_id", some "-0002147483648")]).userId?.map UserId.value =
      some (-2147483648) ∧
    (∃ c, ({} : Config).mergeEnv env = .ok c ∧ c.maxConnections.toNat = 4294967295) ∧
    ({} : Config).mergeEnv late =
      .error (badNumber "KEEPSYNC_ACQUIRE_TIMEOUT" " 18446744073709551616") := by
  intro id owner env late
  obtain ⟨sent, spelled, set⟩ := numbers_keep_their_value
  have last (f : Field) (owned : f.column.name = "user_id") : Row.Last [id, f] "user_id" f :=
    ⟨[id], [], rfl, owned, nofun⟩
  have found {f : Field} {owner? : Option Int} (gives : Row.GivesUserId [id, f] f owner?) :
      ∃ r, Row.toRecord [id, f] = .ok r ∧ r.userId?.map UserId.value = owner? := by
    have other : ∀ g ∈ [id, f], g ≠ f → ∃ s, g.Reads s := by
      intro g hg ne
      obtain rfl : g = id := by simpa [ne] using hg
      have known : "TEXT" ∈ ColumnKind.text.typeNames := by decide
      exact ⟨some "a", .value known rfl rfl⟩
    obtain ⟨r, decoded⟩ := gives.1.mpr other
    exact ⟨r, decoded, gives.2 r decoded⟩
  have unset {env : Environment} {name : String} (h : setting? env name = none) :=
    setting?_eq_none_iff.mp h
  refine ⟨?_, ?_, ?_, ?_, ?_, ?_⟩
  · obtain ⟨two, -, -⟩ := sent _ _ (-32768) (last (owner "INT2" 2 (-32768)) rfl)
    exact found (two ⟨rfl, by decide, by decide, rfl⟩)
  · obtain ⟨-, four, -⟩ := sent _ _ (-2147483648) (last (owner "INT4" 4 (-2147483648)) rfl)
    exact found (four ⟨rfl, by decide, by decide, rfl⟩)
  · obtain ⟨-, -, eight⟩ := sent _ _ 2147483648 (last (owner "INT8" 8 2147483648) rfl)
    exact found (eight ⟨rfl, by decide, by decide, rfl⟩)
  · have read : Decimal.readSigned? (-2147483648) 2147483647 "-0002147483648" =
        some (-2147483648) := by decide
    exact (spelled _ _).mpr ⟨_, rfl, Decimal.readSigned?_eq_some_iff.mp read⟩
  · have read : Decimal.readUnsigned? 4294967295 (Text.trim "\u3000+04294967295\n") =
        some 4294967295 := by decide
    have number : IsNumber 4294967295 "\u3000+04294967295\n" 4294967295 :=
      Decimal.readUnsigned?_eq_some_iff.mp read
    have connections : SetTo env "KEEPSYNC_MAX_CONNECTIONS" "\u3000+04294967295\n" :=
      ⟨rfl, by decide⟩
    obtain ⟨accepted, values⟩ := set {} env
    obtain ⟨c, given⟩ := accepted.mpr ⟨fun raw h => h.unique connections ▸ ⟨_, number⟩,
      fun raw h => absurd h (unset (by decide) raw), fun raw h => absurd h (unset (by decide) raw)⟩
    exact ⟨c, given, ((values _).1 connections).1 c given |>.unique number⟩
  · have read : Decimal.readUnsigned? 18446744073709551615 (Text.trim " 18446744073709551616") =
        none := by decide
    have timeout : SetTo late "KEEPSYNC_ACQUIRE_TIMEOUT" " 18446744073709551616" :=
      ⟨rfl, by decide⟩
    obtain ⟨-, values⟩ := set {} late
    refine (((values _).2 timeout).2).mpr ⟨fun raw h => absurd h (unset (by decide) raw), ?_⟩
    intro n number
    rw [Decimal.readUnsigned?_eq_some_iff.mpr number] at read
    cases read

end RecordSync
