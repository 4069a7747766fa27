import Mathlib
import RecordSync.Config.Layers
import RecordSync.Proofs.Toml.Tables

/-!
# The table of settings

Settings that are written into the table `store` of a file, whichever they are and in whichever
order, are read from it as they were; those that are not written have their defaults. What else
stands in the table or behind it does not matter: comments, entries of other keys, other tables.

Key definitions: `Config.Setting`, `Config.written`, `Config.restrict`, `Config.Writes`.
Key theorems: `Config.Writes.lookup`, `Config.Writes.ofValue?`,
`Config.written_settings_read_back`.
-/
namespace RecordSync
namespace Config

open Toml (keysOf)

/-! ### Settings one by one -/

/-- A setting of the store. -/
inductive Setting where
  | databaseUrl
  | maxConnections
  | acquireTimeout
  | migrationsDir
  | migrationPolicy
  deriving DecidableEq, Repr

namespace Setting

/-- The settings, in declared order. -/
def all : List Setting :=
  [.databaseUrl, .maxConnections, .acquireTimeout, .migrationsDir, .migrationPolicy]

/-- The key of a setting. -/
def key : Setting → String
  | .databaseUrl => "database_url"
  | .maxConnections => "max_connections"
  | .acquireTimeout => "acquire_timeout_secs"
  | .migrationsDir => "migrations_dir"
  | .migrationPolicy => "migration_policy"

theorem key_injective : Function.Injective key := by
  intro s t same
  cases s <;> cases t <;> first | rfl | exact absurd same (by decide)

theorem map_key_all : all.map key = memberNames := rfl

theorem key_mem_memberNames (s : Setting) : s.key ∈ memberNames := by
  cases s <;> decide

end Setting

/-- The value of a setting, as it is written; a directory that is not set is not written. -/
def value? (c : Config) : Setting → Option Toml.Value
  | .databaseUrl => some (.string c.databaseUrl)
  | .maxConnections => some (.integer c.maxConnections.toNat)
  | .acquireTimeout => some (.integer c.acquireTimeout.toNat)
  | .migrationsDir => c.migrationsDir.map .string
  | .migrationPolicy => some (.string c.migrationPolicy.name)

/-- The entries of some settings. -/
def written (c : Config) (settings : List Setting) : List (String × Toml.Value) :=
  settings.filterMap fun s => (c.value? s).map fun v => (s.key, v)

/-- Settings of which only some are kept, and the others have their defaults. -/
def restrict (c : Config) (settings : List Setting) : Config where
  databaseUrl := if .databaseUrl ∈ settings then c.databaseUrl else ({} : Config).databaseUrl
  maxConnections :=
    if .maxConnections ∈ settings then c.maxConnections else ({} : Config).maxConnections
  acquireTimeout :=
    if .acquireTimeout ∈ settings then c.acquireTimeout else ({} : Config).acquireTimeout
  migrationsDir :=
    if .migrationsDir ∈ settings then c.migrationsDir else ({} : Config).migrationsDir
  migrationPolicy :=
    if .migrationPolicy ∈ settings then c.migrationPolicy else ({} : Config).migrationPolicy

/-- Entries of a table that write some settings, among others of keys that are none; no key is there
twice, and the order is free. -/
structure Writes (c : Config) (settings : List Setting)
    (unknown entries : List (String × Toml.Value)) : Prop where
  chosen : settings.Nodup
  foreign : ∀ u ∈ unknown, u.1 ∉ memberNames
  distinct : (keysOf unknown).Nodup
  order : entries.Perm (c.written settings ++ unknown)

variable {c : Config} {s : Setting} {settings : List Setting} {v : Toml.Value}
  {unknown entries : List (String × Toml.Value)}

theorem mem_written : (s.key, v) ∈ c.written settings ↔ s ∈ settings ∧ c.value? s = some v := by
  rw [written, List.mem_filterMap]
  constructor
  · rintro ⟨t, chosen, given⟩
    obtain ⟨w, value, same⟩ := Option.map_eq_some_iff.mp given
    obtain ⟨key, rfl⟩ := Prod.mk.inj same
    obtain rfl := Setting.key_injective key
    exact ⟨chosen, value⟩
  · rintro ⟨chosen, value⟩
    exact ⟨s, chosen, by rw [value, Option.map_some]⟩

theorem keysOf_written (c : Config) (settings : List Setting) :
    (keysOf (c.written settings)).Sublist (settings.map Setting.key) := by
  induction settings with
  | nil => exact .slnil
  | cons s settings ih =>
    rw [written, List.filterMap_cons, List.map_cons]
    cases c.value? s with
    | none => exact ih.cons _
    | some v => exact ih.cons_cons _

theorem Writes.nodup_keysOf (h : c.Writes settings unknown entries) : (keysOf entries).Nodup := by
  have keys : (keysOf entries).Perm (keysOf (c.written settings) ++ keysOf unknown) := by
    rw [keysOf, keysOf, keysOf, ← List.map_append]
    exact h.order.map _
  rw [keys.nodup_iff, List.nodup_append]
  refine ⟨(h.chosen.map Setting.key_injective).sublist (keysOf_written c settings), h.distinct, ?_⟩
  rintro k known _ other rfl
  obtain ⟨s, -, rfl⟩ := List.mem_map.mp ((keysOf_written c settings).subset known)
  obtain ⟨u, there, same⟩ := List.mem_map.mp other
  exact h.foreign u there (same ▸ s.key_mem_memberNames)

theorem lookup_eq_some_iff {key : String} (distinct : (keysOf entries).Nodup) :
    entries.lookup key = some v ↔ (key, v) ∈ entries := by
  induction entries with
  | nil => simp
  | cons e entries ih =>
    obtain ⟨new, distinct⟩ := List.nodup_cons.mp distinct
    by_cases same : key = e.1
    · subst same
      have only : (e.1, v) ∉ entries := fun there => new (List.mem_map.mpr ⟨_, there, rfl⟩)
      simp [List.lookup, Prod.ext_iff, only, eq_comm]
    · have other : (key, v) ≠ e := fun h => same (congrArg Prod.fst h)
      rw [List.lookup, beq_eq_false_iff_ne.mpr same, ih distinct, List.mem_cons, or_iff_right other]

/-- Under the key of a setting stands its value, if it is written. -/
theorem Writes.lookup (h : c.Writes settings unknown entries) (s : Setting) :
    entries.lookup s.key = if s ∈ settings then c.value? s else none := by
  refine Option.ext fun v => ?_
  have other : (s.key, v) ∉ unknown := fun there => h.foreign _ there s.key_mem_memberNames
  rw [lookup_eq_some_iff h.nodup_keysOf, h.order.mem_iff,
    List.mem_append, mem_written, or_iff_left other]
  by_cases there : s ∈ settings <;> simp [there]

/-! ### Settings are read back -/

theorem word32?_toNat (w : UInt32) : word32? (Toml.Value.integer w.toNat) = some w := by
  have := w.toNat_lt
  have bounds : (0 : Int) ≤ w.toNat ∧ (w.toNat : Int) ≤ 4294967295 := by omega
  simp only [word32?, SettingValue.int?, Toml.Value.int?, if_pos bounds, Option.map_some,
    Int.toNat_natCast, UInt32.ofNat_toNat]

theorem word64?_toNat (w : UInt64) : word64? (Toml.Value.integer w.toNat) = some w := by
  have := w.toNat_lt
  have bounds : (0 : Int) ≤ w.toNat ∧ (w.toNat : Int) ≤ 18446744073709551615 := by omega
  simp only [word64?, SettingValue.int?, Toml.Value.int?, if_pos bounds, Option.map_some,
    Int.toNat_natCast, UInt64.ofNat_toNat]

theorem policy?_name (p : MigrationPolicy) : policy? (Toml.Value.string p.name) = some p := by
  cases p <;> rfl

/-- A table of written settings gives these. -/
theorem Writes.ofValue? (h : c.Writes settings unknown entries) :
    Config.ofValue? (Toml.Value.table false entries) = some (c.restrict settings) := by
  have members : SettingValue.readMembers? memberNames (Toml.Value.table false entries) =
      some (Setting.all.map fun s => if s ∈ settings then c.value? s else none) := by
    rw [← Setting.map_key_all]
    simp only [SettingValue.readMembers?, Toml.Value.readMembers?, List.map_map, Function.comp_def,
      h.lookup]
  have either {α : Type} (s : Setting) (standard x : α) (read : Toml.Value → Option α)
      (same : memberOr standard read (c.value? s) = some x) :
      memberOr standard read (if s ∈ settings then c.value? s else none) =
        some (if s ∈ settings then x else standard) := by
    by_cases there : s ∈ settings
    · rw [if_pos there, if_pos there, same]
    · rw [if_neg there, if_neg there, memberOr]
  have dir : memberOr none SettingValue.optionalText? (c.value? .migrationsDir) =
      some c.migrationsDir := by
    rw [value?]
    cases c.migrationsDir <;> rfl
  rw [Config.ofValue?, members, Option.bind_some]
  refine ofMembers?_eq_some_iff.mpr ⟨either .databaseUrl _ _ _ rfl,
    either .maxConnections _ _ _ (word32?_toNat c.maxConnections),
    either .acquireTimeout _ _ _ (word64?_toNat c.acquireTimeout), either .migrationsDir _ _ _ dir,
    either .migrationPolicy _ _ _ (policy?_name c.migrationPolicy)⟩

/-- Without variables and an address the settings are those of the file. -/
theorem resolve_without_variables (path : String) (file : FileState) :
    resolve path file (fun _ => none) none = ofFile path file := by
  rw [resolve]
  cases ofFile path file <;> rfl

/-- A file whose first table is `store` gives the settings that are written there. -/
theorem Writes.resolve (h : c.Writes settings unknown entries) (path : String) {text : String}
    {ts : List (String × Toml.Value)}
    (parsed : Toml.parse? text = some (("store", .table false entries) :: ts)) :
    Config.resolve path (.text text) (fun _ => none) none = .ok (c.restrict settings) := by
  have store : ofToml? (("store", Toml.Value.table false entries) :: ts) =
      some (c.restrict settings) := h.ofValue?
  rw [resolve_without_variables, ofFile, parsed, Option.bind_some, store]

theorem Writes.exists_spellsTable {unknown : List (String × String)}
    (h : c.Writes settings (unknown.map fun u => (u.1, .string u.2)) entries)
    (small : c.acquireTimeout.toNat < 2 ^ 63) (name : String) :
    ∃ ls, Toml.SpellsTable name entries ls := by
  have plain (s : Setting) (v : Toml.Value) (value : c.value? s = some v) : Toml.Plain v := by
    cases s with
    | databaseUrl => exact Option.some.inj value ▸ .string _
    | maxConnections =>
      have := c.maxConnections.toNat_lt
      exact Option.some.inj value ▸ .number (by rw [Toml.largest]; omega)
    | acquireTimeout => exact Option.some.inj value ▸ .number (by rw [Toml.largest]; omega)
    | migrationsDir =>
      obtain ⟨dir, -, rfl⟩ := Option.map_eq_some_iff.mp value
      exact .string dir
    | migrationPolicy => exact Option.some.inj value ▸ .string _
  refine Toml.exists_spellsTable name fun e there => ?_
  rcases List.mem_append.mp (h.order.subset there) with setting | other
  · obtain ⟨s, -, given⟩ := List.mem_filterMap.mp setting
    obtain ⟨v, value, rfl⟩ := Option.map_eq_some_iff.mp given
    exact plain s v value
  · obtain ⟨u, -, rfl⟩ := List.mem_map.mp other
    exact .string u.2

/-- **Settings read back.** Whatever settings are written into the table `store`, in whatever order,
with comments and entries of other keys between them, a file that starts with this table gives them
as they were, and the defaults for the others; and so it does with more tables behind it, of texts
and numbers under names and keys that differ from each other, or with any text that is a file by
itself, starts with a header and has no table `store`. Such lines can be written for all settings
but a number of seconds from `2 ^ 63` on. -/
theorem written_settings_read_back (path : String) (c : Config) (settings : List Setting)
    (unknown : List (String × String)) (entries : List (String × Toml.Value))
    (small : c.acquireTimeout.toNat < 2 ^ 63)
    (writes : c.Writes settings (unknown.map fun u => (u.1, .string u.2)) entries) :
    (∃ ls, Toml.SpellsTable "store" entries ls) ∧
    ∀ ls, Toml.SpellsTable "store" entries ls →
      (∀ others ms, Toml.SpellsTables others ms → "store" ∉ keysOf others →
        (keysOf others).Nodup → (∀ t ∈ others, (keysOf t.2).Nodup) →
        resolve path (.text (Toml.fileOf (ls ++ ms))) (fun _ => none) none =
          .ok (c.restrict settings)) ∧
      ∀ (more : String) (ts : List (String × Toml.Value)), Toml.StartsTable more.toList →
        Toml.parse? more = some ts → "store" ∉ keysOf ts →
        resolve path (.text (Toml.fileOf (ls ++ [more.toList]))) (fun _ => none) none =
          .ok (c.restrict settings) := by
  refine ⟨writes.exists_spellsTable small "store", fun ls table => ⟨?_, ?_⟩⟩
  · intro others ms tables new names keys
    obtain ⟨starts, parsed⟩ := tables.parse? names keys
    have other : "store" ∉ keysOf (others.map fun t => (t.1, Toml.Value.table false t.2)) := by
      simpa [keysOf] using new
    exact writes.resolve path (table.parse? writes.nodup_keysOf starts parsed other)
  · intro more ts starts parsed new
    have alone : ['\n'].intercalate [more.toList] = more.toList := List.intercalate_singleton
    have text : Toml.fileOf [more.toList] = more := by
      rw [Toml.fileOf, alone, String.ofList_toList]
    rw [← alone] at starts
    rw [← text] at parsed
    exact writes.resolve path (table.parse? writes.nodup_keysOf starts parsed new)

/-- Two settings with another key between them, behind a comment and before another table; the
address has a quote, a comment mark, brackets and a line feed in it. -/
theorem written_settings_read_back_before_extra_table :
    resolve "config.toml" (.text (Toml.fileOf ["# settings".toList, "[store]".toList,
      "acquire_timeout_secs = 9".toList, "note = \"x\"".toList,
      "database_url = \"a\\\"b # [c]\\u000a\"".toList, [], "[extra]".toList,
      "store = \"y\"".toList])) (fun _ => none) none =
      .ok { databaseUrl := "a\"b # [c]\n", acquireTimeout := 9 } := by
  let c : Config :=
    { databaseUrl := "a\"b # [c]\n", acquireTimeout := 9, migrationPolicy := .failFast }
  have writes : c.Writes [.acquireTimeout, .databaseUrl]
      ([("note", "x")].map fun u => (u.1, .string u.2)) [("acquire_timeout_secs", .integer 9),
        ("note", .string "x"), ("database_url", .string "a\"b # [c]\n")] :=
    { chosen := by decide
      foreign := by simp [memberNames]
      distinct := by decide
      order := .cons _ (.swap _ _ _) }
  have blank : Toml.Space [' '] := by simp [Toml.Space, Toml.isSpace]
  have bare (key : String) (named : key.toList ≠ [] ∧ key.toList.all Toml.isBare = true) :
      Toml.SpellsKey key key.toList := .bare named.1 (List.all_eq_true.mp named.2)
  have header (key : String) (named : key.toList ≠ [] ∧ key.toList.all Toml.isBare = true) :
      Toml.SpellsHeader key ('[' :: (key.toList ++ [']'])) :=
    .header Toml.space_nil Toml.space_nil (bare key named) Toml.space_nil (.space Toml.space_nil)
  have entry (key : String) (named : key.toList ≠ [] ∧ key.toList.all Toml.isBare = true)
      {v : Toml.Value} {vs : List Char} (value : Toml.SpellsValue v vs) :
      Toml.SpellsEntry (key, v) (key.toList ++ ' ' :: '=' :: ' ' :: (vs ++ [])) :=
    .entry Toml.space_nil (bare key named) blank blank value (.space Toml.space_nil)
  have printable : " settings".toList.all Toml.isPrintable = true := by decide
  have comment : Toml.Aside "# settings".toList :=
    .comment Toml.space_nil (List.all_eq_true.mp printable)
  have table : Toml.SpellsTable "store" _ ["# settings".toList, "[store]".toList,
      "acquire_timeout_secs = 9".toList, "note = \"x\"".toList,
      "database_url = \"a\\\"b # [c]\\u000a\"".toList, []] :=
    .aside comment <| .header (header "store" (by decide)) <|
      .entry (entry "acquire_timeout_secs" (by decide) (.number (n := 9) (by decide))) <|
      .entry (entry "note" (by decide) (Toml.spellsValue_quoted "x")) <|
      .entry (entry "database_url" (by decide) (Toml.spellsValue_quoted "a\"b # [c]\n")) <|
      .aside (.space Toml.space_nil) .nil
  have others : Toml.SpellsTables [("extra", [("store", .string "y")])]
      (["[extra]".toList, "store = \"y\"".toList] ++ []) :=
    .table (.header (header "extra" (by decide)) <|
      .entry (entry "store" (by decide) (Toml.spellsValue_quoted "y")) .nil) .nil
  obtain ⟨-, read⟩ := written_settings_read_back "config.toml" c _ _ _ (by decide) writes
  exact (read _ table).1 _ _ others (by decide) (by decide) (by decide)

end Config
end RecordSync
