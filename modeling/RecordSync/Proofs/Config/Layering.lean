import RecordSync.Config.Layers
import RecordSync.Proofs.Digits

/-!
# Settings in layers

Each setting goes by variables of its own: a variable that is set stands over what was there before,
and one that is blank counts as not set. Two variables give the address, one over the other, and an
address that is given on the command line stands over both. A number or a policy has to be one: the
first variable that is set to something else ends the reading, whatever address is given.

`Config.Over` says what one variable makes of one setting and `Config.Layered` what all layers make
of all settings, without the functions that compute it; so each setting can be seen to depend on its
own variables only, and layers that are put on twice to change nothing.

Key definitions: `Config.SetTo`, `Config.Over`, `Config.IsNumber`, `MigrationPolicy.Named`,
`Config.FirstInvalid`, `Config.Layered`.
Key theorems: `Config.mergeEnv_eq_ok_iff`, `Config.mergeEnv_eq_error_iff`,
`Config.mergeEnv_mergeEnv`, `Config.settled_in_layers`.
-/
namespace RecordSync

/-! ### Policies -/

namespace MigrationPolicy

variable {raw : String} {p : MigrationPolicy} {e : StoreError}

/-- How a policy may be spelled. -/
def spellings : MigrationPolicy → List String
  | .bestEffort => ["best-effort", "best_effort"]
  | .failFast => ["fail-fast", "fail_fast"]

/-- The text is a spelling of the policy, padded or not and in any case of its ASCII letters. -/
def Named (raw : String) (p : MigrationPolicy) : Prop :=
  Text.lower (Text.trim raw) ∈ p.spellings

instance (raw : String) (p : MigrationPolicy) : Decidable (Named raw p) :=
  inferInstanceAs (Decidable (_ ∈ _))

theorem parse_eq_ok_iff : parse raw = .ok p ↔ Named raw p := by
  unfold parse Named
  generalize Text.lower (Text.trim raw) = word
  by_cases best : word = "best-effort" ∨ word = "best_effort"
  · rcases best with rfl | rfl <;> cases p <;> decide
  · by_cases fast : word = "fail-fast" ∨ word = "fail_fast"
    · rcases fast with rfl | rfl <;> cases p <;> decide
    · cases p <;> simp [best, fast, spellings]

theorem Named.unique {p' : MigrationPolicy} (h : Named raw p) (h' : Named raw p') : p = p' := by
  rw [← parse_eq_ok_iff] at h h'
  exact Except.ok.inj (h.symm.trans h')

/-- What is said of a text that names no policy. -/
def unknown (raw : String) : StoreError :=
  .configuration ("unknown migration policy '" ++ Text.lower (Text.trim raw) ++
    "' (expected best-effort or fail-fast)")

theorem parse_eq_error_iff : parse raw = .error e ↔ (∀ p, ¬Named raw p) ∧ e = unknown raw := by
  simp only [← parse_eq_ok_iff]
  unfold parse unknown
  dsimp only
  split_ifs <;> simp [eq_comm]

end MigrationPolicy

namespace Config

variable {env env' : Environment} {name raw : String} {α : Type}

/-! ### Variables -/

/-- A variable is set to a text; one that is blank counts as not set. -/
def SetTo (env : Environment) (name raw : String) : Prop :=
  env name = some raw ∧ Text.trim raw ≠ ""

theorem SetTo.unique {raw' : String} (h : SetTo env name raw) (h' : SetTo env name raw') :
    raw = raw' :=
  Option.some.inj (h.1.symm.trans h'.1)

theorem setting?_eq_some_iff : setting? env name = some raw ↔ SetTo env name raw := by
  simp [setting?, SetTo, Text.trim_eq_empty_iff]

theorem setting?_eq_none_iff : setting? env name = none ↔ ∀ raw, ¬SetTo env name raw := by
  simp only [← setting?_eq_some_iff]
  cases setting? env name <;> simp

/-- What becomes of a setting when a variable is put on top of it: what the variable says if it is
set, or else what the setting was before. -/
inductive Over (env : Environment) (name : String) (reads : String → α → Prop) (before : α) :
    α → Prop
  | set {raw : String} {x : α} (set : SetTo env name raw) (said : reads raw x) :
    Over env name reads before x
  | kept (unset : ∀ raw, ¬SetTo env name raw) : Over env name reads before before

/-- A variable is set to a text that cannot be read. -/
def Senseless (env : Environment) (name : String) (reads : String → α → Prop) (raw : String) :
    Prop :=
  SetTo env name raw ∧ ∀ x, ¬reads raw x

section

variable {reads : String → α → Prop} {before x y : α}

theorem Over.said (h : Over env name reads before x) (set : SetTo env name raw) : reads raw x := by
  cases h with
  | set set' said => exact set'.unique set ▸ said
  | kept unset => exact absurd set (unset raw)

theorem Over.unique (functional : ∀ {raw x y}, reads raw x → reads raw y → x = y)
    (h : Over env name reads before x) (h' : Over env name reads before y) : x = y := by
  cases h with
  | set set said => exact functional said (h'.said set)
  | kept unset =>
    cases h' with
    | @set raw _ set => exact absurd set (unset raw)
    | kept => rfl

/-- A variable that was put on top changes nothing when it is put there again. -/
theorem Over.again (h : Over env name reads before x) : Over env name reads x x := by
  cases h with
  | set set said => exact .set set said
  | kept unset => exact .kept unset

theorem Over.not_senseless (h : Over env name reads before x) : ¬Senseless env name reads raw := by
  rintro ⟨set, senseless⟩
  exact senseless x (h.said set)

/-- A setting that takes its text from a variable as it is. -/
theorem over_text (env : Environment) (name before : String) :
    Over env name (· = ·) before ((setting? env name).getD before) := by
  cases h : setting? env name with
  | none => exact .kept (setting?_eq_none_iff.mp h)
  | some raw => exact .set (setting?_eq_some_iff.mp h) rfl

end

/-! ### Variables that have to be read -/

/-- What reading a variable comes to, if a text that cannot be read is complained of. -/
inductive Settles (env : Environment) (name : String) (reads : String → α → Prop)
    (complaint : String → StoreError) : Except StoreError (Option α) → Prop
  | unset (unset : ∀ raw, ¬SetTo env name raw) : Settles env name reads complaint (.ok none)
  | set {raw : String} {x : α} (set : SetTo env name raw) (said : reads raw x) :
    Settles env name reads complaint (.ok (some x))
  | refused {raw : String} (senseless : Senseless env name reads raw) :
    Settles env name reads complaint (.error (complaint raw))

section

variable {reads : String → α → Prop} {complaint : String → StoreError} {r : Option α} {x : α}
  {e : StoreError}

theorem Settles.over (h : Settles env name reads complaint (.ok r)) (before : α) :
    Over env name reads before (r.getD before) := by
  cases h with
  | unset unset => exact .kept unset
  | set set said => exact .set set said

theorem Settles.said (h : Settles env name reads complaint (.ok (some x))) :
    ∃ raw, reads raw x := by
  cases h with
  | @set raw _ _ said => exact ⟨raw, said⟩

theorem Settles.senseless (h : Settles env name reads complaint (.error e)) :
    ∃ raw, Senseless env name reads raw ∧ e = complaint raw := by
  cases h with
  | @refused raw senseless => exact ⟨raw, senseless, rfl⟩

theorem Settles.readable (h : Settles env name reads complaint (.ok r)) (raw : String) :
    ¬Senseless env name reads raw := by
  rintro ⟨set, senseless⟩
  cases h with
  | unset unset => exact unset raw set
  | set set' said => exact senseless _ (set'.unique set ▸ said)

end

/-- The text is a number, padded or not and perhaps with a plus sign, that is at most `largest`. -/
def IsNumber (largest : Nat) (raw : String) (n : Nat) : Prop :=
  Decimal.Unsigned (Text.trim raw) n ∧ n ≤ largest

theorem IsNumber.unique {largest n m : Nat} (h : IsNumber largest raw n)
    (h' : IsNumber largest raw m) : n = m := by
  unfold IsNumber at h h'
  rw [← Decimal.readUnsigned?_eq_some_iff] at h h'
  exact Option.some.inj (h.symm.trans h')

/-- What is said of a variable that is set to no number. -/
def badNumber (name raw : String) : StoreError :=
  .configuration (name ++ ": invalid number '" ++ raw ++ "'")

/-- A variable is read when it is set, and how its text is read decides. -/
theorem settles_of_read {reads : String → α → Prop} {complaint : String → StoreError}
    {read : String → Except StoreError (Option α)} (env : Environment) (name : String)
    (reading : ∀ raw, (∃ x, reads raw x ∧ read raw = .ok (some x)) ∨
      (∀ x, ¬reads raw x) ∧ read raw = .error (complaint raw)) :
    Settles env name reads complaint (match setting? env name with
      | none => .ok none
      | some raw => read raw) := by
  cases hs : setting? env name with
  | none => exact .unset (setting?_eq_none_iff.mp hs)
  | some raw =>
    have set := setting?_eq_some_iff.mp hs
    dsimp only
    rcases reading raw with ⟨x, said, given⟩ | ⟨unread, failed⟩
    · rw [given]
      exact .set set said
    · rw [failed]
      exact .refused ⟨set, unread⟩

theorem settles_numberSetting (env : Environment) (name : String) (largest : Nat) :
    Settles env name (IsNumber largest) (badNumber name) (numberSetting env name largest) := by
  apply settles_of_read
  intro raw
  cases hr : Decimal.readUnsigned? largest (Text.trim raw) with
  | some n => exact .inl ⟨n, Decimal.readUnsigned?_eq_some_iff.mp hr, rfl⟩
  | none =>
    refine .inr ⟨fun n number => ?_, rfl⟩
    simp [Decimal.readUnsigned?_eq_some_iff.mpr number] at hr

theorem settles_policySetting (env : Environment) (name : String) :
    Settles env name MigrationPolicy.Named MigrationPolicy.unknown (policySetting env name) := by
  apply settles_of_read
  intro raw
  cases hp : MigrationPolicy.parse raw with
  | ok p => exact .inl ⟨p, MigrationPolicy.parse_eq_ok_iff.mp hp, rfl⟩
  | error e =>
    obtain ⟨unnamed, rfl⟩ := MigrationPolicy.parse_eq_error_iff.mp hp
    exact .inr ⟨unnamed, rfl⟩

/-! ### All variables -/

/-- The first variable that is set to something that cannot be read, by what is said of it. -/
inductive FirstInvalid (env : Environment) : StoreError → Prop
  | connections {raw : String}
    (bad : Senseless env "KEEPSYNC_MAX_CONNECTIONS" (IsNumber 4294967295) raw) :
    FirstInvalid env
      (.configuration ("KEEPSYNC_MAX_CONNECTIONS: invalid number '" ++ raw ++ "'"))
  | timeout {raw : String}
    (connections : ∀ raw, ¬Senseless env "KEEPSYNC_MAX_CONNECTIONS" (IsNumber 4294967295) raw)
    (bad : Senseless env "KEEPSYNC_ACQUIRE_TIMEOUT" (IsNumber 18446744073709551615) raw) :
    FirstInvalid env
      (.configuration ("KEEPSYNC_ACQUIRE_TIMEOUT: invalid number '" ++ raw ++ "'"))
  | policy {raw : String}
    (connections : ∀ raw, ¬Senseless env "KEEPSYNC_MAX_CONNECTIONS" (IsNumber 4294967295) raw)
    (timeout : ∀ raw,
      ¬Senseless env "KEEPSYNC_ACQUIRE_TIMEOUT" (IsNumber 18446744073709551615) raw)
    (bad : Senseless env "KEEPSYNC_MIGRATION_POLICY" MigrationPolicy.Named raw) :
    FirstInvalid env (.configuration ("unknown migration policy '" ++
      Text.lower (Text.trim raw) ++ "' (expected best-effort or fail-fast)"))

theorem FirstInvalid.unique {e e' : StoreError} (h : FirstInvalid env e)
    (h' : FirstInvalid env e') : e = e' := by
  cases h with
  | connections bad =>
    cases h' with
    | connections bad' => rw [bad.1.unique bad'.1]
    | timeout readable => exact absurd bad (readable _)
    | policy readable => exact absurd bad (readable _)
  | timeout readable bad =>
    cases h' with
    | connections bad' => exact absurd bad' (readable _)
    | timeout _ bad' => rw [bad.1.unique bad'.1]
    | policy _ readable' => exact absurd bad (readable' _)
  | policy readable readable' bad =>
    cases h' with
    | connections bad' => exact absurd bad' (readable _)
    | timeout _ bad' => exact absurd bad' (readable' _)
    | policy _ _ bad' => rw [bad.1.unique bad'.1]

/-- The settings that layers come to: variables over the base, each over its own setting, and over
the address of the base two variables and then an address that is given. -/
structure Layered (base : Config) (env : Environment) (address : Option String) (c : Config) :
    Prop where
  url : address = some c.databaseUrl ∨ address = none ∧
    ∃ fallback, Over env "DATABASE_URL" (· = ·) base.databaseUrl fallback ∧
      Over env "KEEPSYNC_DATABASE_URL" (· = ·) fallback c.databaseUrl
  connections : Over env "KEEPSYNC_MAX_CONNECTIONS" (IsNumber 4294967295)
    base.maxConnections.toNat c.maxConnections.toNat
  timeout : Over env "KEEPSYNC_ACQUIRE_TIMEOUT" (IsNumber 18446744073709551615)
    base.acquireTimeout.toNat c.acquireTimeout.toNat
  dir : Over env "KEEPSYNC_MIGRATIONS_DIR" (fun raw dir => dir = some raw)
    base.migrationsDir c.migrationsDir
  policy : Over env "KEEPSYNC_MIGRATION_POLICY" MigrationPolicy.Named
    base.migrationPolicy c.migrationPolicy

variable {base c c' : Config} {address : Option String} {e : StoreError}

/-- The layers leave nothing open. -/
theorem Layered.unique (h : Layered base env address c) (h' : Layered base env address c') :
    c = c' := by
  have url : c.databaseUrl = c'.databaseUrl := by
    rcases h.url with given | ⟨rfl, fallback, first, second⟩
    · rcases h'.url with given' | ⟨rfl, -⟩
      · exact Option.some.inj (given.symm.trans given')
      · cases given
    · rcases h'.url with given' | ⟨-, fallback', first', second'⟩
      · cases given'
      · obtain rfl := first.unique (fun hx hy => hx.symm.trans hy) first'
        exact second.unique (fun hx hy => hx.symm.trans hy) second'
  have connections : c.maxConnections.toNat = c'.maxConnections.toNat :=
    h.connections.unique (fun hx hy => hx.unique hy) h'.connections
  have timeout : c.acquireTimeout.toNat = c'.acquireTimeout.toNat :=
    h.timeout.unique (fun hx hy => hx.unique hy) h'.timeout
  have dir := h.dir.unique (fun hx hy => hx.trans hy.symm) h'.dir
  have policy := h.policy.unique (fun hx hy => hx.unique hy) h'.policy
  rw [UInt32.toNat_inj] at connections
  rw [UInt64.toNat_inj] at timeout
  cases c
  cases c'
  congr

/-- Layers that were put on change nothing when they are put on again. -/
theorem Layered.again (h : Layered base env none c) : Layered c env none c where
  url := by
    rcases h.url with given | ⟨-, fallback, first, second⟩
    · cases given
    · refine .inr ⟨rfl, ?_⟩
      cases second with
      | set set said => exact ⟨_, over_text env "DATABASE_URL" c.databaseUrl, .set set said⟩
      | kept unset => exact ⟨_, first.again, .kept unset⟩
  connections := h.connections.again
  timeout := h.timeout.again
  dir := h.dir.again
  policy := h.policy.again

theorem Layered.not_firstInvalid (h : Layered base env address c) : ¬FirstInvalid env e := by
  intro invalid
  cases invalid with
  | connections bad => exact h.connections.not_senseless bad
  | timeout _ bad => exact h.timeout.not_senseless bad
  | policy _ _ bad => exact h.policy.not_senseless bad

/-- A word that was read over another one, as a number. -/
theorem getD_map_of_leftInverse {β : Type} {f : Nat → β} {g : β → Nat} {r : Option Nat}
    (inverse : ∀ n ∈ r, g (f n) = n) (w : β) : g ((r.map f).getD w) = r.getD (g w) := by
  cases r with
  | none => rfl
  | some n => exact inverse n rfl

/-- The variables come to layered settings, or the first that cannot be read is complained of. -/
theorem mergeEnv_cases (base : Config) (env : Environment) :
    (∃ e, FirstInvalid env e ∧ base.mergeEnv env = .error e) ∨
      ∃ c, Layered base env none c ∧ base.mergeEnv env = .ok c := by
  unfold mergeEnv
  have connections := settles_numberSetting env "KEEPSYNC_MAX_CONNECTIONS" 4294967295
  have timeout := settles_numberSetting env "KEEPSYNC_ACQUIRE_TIMEOUT" 18446744073709551615
  have policy := settles_policySetting env "KEEPSYNC_MIGRATION_POLICY"
  generalize numberSetting env "KEEPSYNC_MAX_CONNECTIONS" 4294967295 = first at *
  generalize numberSetting env "KEEPSYNC_ACQUIRE_TIMEOUT" 18446744073709551615 = second at *
  generalize policySetting env "KEEPSYNC_MIGRATION_POLICY" = third at *
  rcases first with e | n
  · obtain ⟨raw, bad, rfl⟩ := connections.senseless
    exact .inl ⟨_, .connections bad, rfl⟩
  rcases second with e | m
  · obtain ⟨raw, bad, rfl⟩ := timeout.senseless
    exact .inl ⟨_, .timeout connections.readable bad, rfl⟩
  rcases third with e | p
  · obtain ⟨raw, bad, rfl⟩ := policy.senseless
    exact .inl ⟨_, .policy connections.readable timeout.readable bad, rfl⟩
  refine .inr ⟨_, ?_, rfl⟩
  constructor
  · refine .inr ⟨rfl, _, over_text env "DATABASE_URL" base.databaseUrl, ?_⟩
    have first := over_text env "KEEPSYNC_DATABASE_URL"
      ((setting? env "DATABASE_URL").getD base.databaseUrl)
    cases hs : setting? env "KEEPSYNC_DATABASE_URL" <;> simpa [hs] using first
  · have fits : ∀ k ∈ n, (UInt32.ofNat k).toNat = k := by
      rintro k rfl
      obtain ⟨raw, -, le⟩ := connections.said
      exact UInt32.toNat_ofNat_of_lt (Nat.lt_succ_of_le le)
    rw [getD_map_of_leftInverse fits]
    exact connections.over _
  · have fits : ∀ k ∈ m, (UInt64.ofNat k).toNat = k := by
      rintro k rfl
      obtain ⟨raw, -, le⟩ := timeout.said
      exact UInt64.toNat_ofNat_of_lt (Nat.lt_succ_of_le le)
    rw [getD_map_of_leftInverse fits]
    exact timeout.over _
  · cases hs : setting? env "KEEPSYNC_MIGRATIONS_DIR" with
    | none => exact .kept (setting?_eq_none_iff.mp hs)
    | some raw => exact .set (setting?_eq_some_iff.mp hs) rfl
  · exact policy.over _

theorem mergeEnv_eq_ok_iff : base.mergeEnv env = .ok c ↔ Layered base env none c := by
  rcases mergeEnv_cases base env with ⟨e, invalid, failed⟩ | ⟨c', layered, given⟩
  · rw [failed]
    exact ⟨nofun, fun h => absurd invalid h.not_firstInvalid⟩
  · rw [given, Except.ok.injEq]
    exact ⟨fun h => h ▸ layered, layered.unique⟩

theorem mergeEnv_eq_error_iff : base.mergeEnv env = .error e ↔ FirstInvalid env e := by
  rcases mergeEnv_cases base env with ⟨e', invalid, failed⟩ | ⟨c, layered, given⟩
  · rw [failed, Except.error.injEq]
    exact ⟨fun h => h ▸ invalid, invalid.unique⟩
  · rw [given]
    exact ⟨nofun, fun h => absurd h layered.not_firstInvalid⟩

theorem exists_firstInvalid_iff : (∃ e, FirstInvalid env e) ↔ ∃ raw,
    Senseless env "KEEPSYNC_MAX_CONNECTIONS" (IsNumber 4294967295) raw ∨
      Senseless env "KEEPSYNC_ACQUIRE_TIMEOUT" (IsNumber 18446744073709551615) raw ∨
        Senseless env "KEEPSYNC_MIGRATION_POLICY" MigrationPolicy.Named raw := by
  constructor
  · rintro ⟨e, h⟩
    cases h with
    | @connections raw bad => exact ⟨raw, .inl bad⟩
    | @timeout raw _ bad => exact ⟨raw, .inr (.inl bad)⟩
    | @policy raw _ _ bad => exact ⟨raw, .inr (.inr bad)⟩
  · -- What cannot be read rules out layered settings, so there is a first complaint.
    intro ⟨raw, bad⟩
    rcases mergeEnv_cases {} env with ⟨e, invalid, -⟩ | ⟨c, layered, -⟩
    · exact ⟨e, invalid⟩
    · rcases bad with bad | bad | bad
      · exact absurd bad layered.connections.not_senseless
      · exact absurd bad layered.timeout.not_senseless
      · exact absurd bad layered.policy.not_senseless

/-- Variables that are put on a second time change nothing. -/
theorem mergeEnv_mergeEnv (base : Config) (env : Environment) :
    ((base.mergeEnv env).bind fun c => c.mergeEnv env) = base.mergeEnv env := by
  cases h : base.mergeEnv env with
  | error e => rfl
  | ok c => exact mergeEnv_eq_ok_iff.mpr (mergeEnv_eq_ok_iff.mp h).again

/-- Only six variables matter, and of these only to what they are set. -/
theorem mergeEnv_congr (base : Config)
    (alike : ∀ name ∈ variableNames, ∀ raw, SetTo env name raw ↔ SetTo env' name raw) :
    base.mergeEnv env' = base.mergeEnv env := by
  have same {name : String} (h : name ∈ variableNames) : setting? env' name = setting? env name :=
    Option.ext fun raw => by
      rw [setting?_eq_some_iff, setting?_eq_some_iff, alike name h]
  simp only [mergeEnv, numberSetting, policySetting,
    same (by decide : "KEEPSYNC_DATABASE_URL" ∈ variableNames),
    same (by decide : "DATABASE_URL" ∈ variableNames),
    same (by decide : "KEEPSYNC_MAX_CONNECTIONS" ∈ variableNames),
    same (by decide : "KEEPSYNC_ACQUIRE_TIMEOUT" ∈ variableNames),
    same (by decide : "KEEPSYNC_MIGRATIONS_DIR" ∈ variableNames),
    same (by decide : "KEEPSYNC_MIGRATION_POLICY" ∈ variableNames)]

/-! ### All layers -/

theorem Layered.withAddress (h : Layered base env none c) (address : Option String) :
    Layered base env address (c.withAddress address) where
  url := by
    cases address with
    | none => exact h.url
    | some url => exact .inl rfl
  connections := h.connections
  timeout := h.timeout
  dir := h.dir
  policy := h.policy

/-- All layers come to layered settings, or the first variable that cannot be read is the reason
why there are none. -/
theorem resolve_cases {path : String} {file : FileState} (found : ofFile path file = .ok base)
    (env : Environment) (address : Option String) :
    (∃ cause, FirstInvalid env cause ∧
      resolve path file env address = .error (.invalidEnvironment cause)) ∨
    ∃ c, Layered base env address c ∧ resolve path file env address = .ok c := by
  unfold resolve
  rw [found]
  rcases mergeEnv_cases base env with ⟨cause, invalid, failed⟩ | ⟨c, layered, given⟩
  · exact .inl ⟨cause, invalid, by simp only [bind, Except.bind, failed, Except.mapError]⟩
  · exact .inr ⟨_, layered.withAddress address, by
      simp only [bind, Except.bind, given, Except.mapError]⟩

/-- **Settings come in layers.** Over any settings of the file there are no settings exactly if some
variable is set to what is no number or no policy, and then the first such variable is complained
of, whatever address is given. Otherwise each setting goes by its own layers: a variable that is set
stands over what the file or the defaults give; for the address one variable stands over another
one, and an address that is given over both, even if it is blank. No other variable matters, blank
ones do not, and variables that are put on a second time change nothing. -/
theorem settled_in_layers (path : String) (file : FileState) (base : Config) (env : Environment)
    (address : Option String) (found : ofFile path file = .ok base) :
    (∀ e, resolve path file env address = .error e ↔
      ∃ cause, FirstInvalid env cause ∧ e = .invalidEnvironment cause) ∧
    ((∃ cause, FirstInvalid env cause) ↔ ∃ raw,
      Senseless env "KEEPSYNC_MAX_CONNECTIONS" (IsNumber 4294967295) raw ∨
        Senseless env "KEEPSYNC_ACQUIRE_TIMEOUT" (IsNumber 18446744073709551615) raw ∨
          Senseless env "KEEPSYNC_MIGRATION_POLICY" MigrationPolicy.Named raw) ∧
    (∀ c, resolve path file env address = .ok c ↔ Layered base env address c) ∧
    (∀ env' : Environment,
      (∀ name ∈ ["KEEPSYNC_DATABASE_URL", "DATABASE_URL", "KEEPSYNC_MAX_CONNECTIONS",
        "KEEPSYNC_ACQUIRE_TIMEOUT", "KEEPSYNC_MIGRATIONS_DIR", "KEEPSYNC_MIGRATION_POLICY"],
        ∀ raw, SetTo env name raw ↔ SetTo env' name raw) →
      resolve path file env' address = resolve path file env address) ∧
    ∀ c : Config, ((c.mergeEnv env).bind fun c' => c'.mergeEnv env) = c.mergeEnv env := by
  refine ⟨fun e => ?_, exists_firstInvalid_iff, fun c => ?_, fun env' alike => ?_,
    fun c => mergeEnv_mergeEnv c env⟩
  · rcases resolve_cases found env address with ⟨cause, invalid, failed⟩ | ⟨c, layered, given⟩
    · rw [failed, Except.error.injEq]
      constructor
      · exact fun h => ⟨cause, invalid, h.symm⟩
      · rintro ⟨cause', invalid', rfl⟩
        rw [invalid.unique invalid']
    · rw [given]
      exact ⟨nofun, fun ⟨_, invalid, _⟩ => absurd invalid layered.not_firstInvalid⟩
  · rcases resolve_cases found env address with ⟨cause, invalid, failed⟩ | ⟨c', layered, given⟩
    · rw [failed]
      exact ⟨nofun, fun h => absurd invalid h.not_firstInvalid⟩
    · rw [given, Except.ok.injEq]
      exact ⟨fun h => h ▸ layered, layered.unique⟩
  · simp only [resolve, mergeEnv_congr _ alike]

/-- A file with two numbers; over it a blank variable, another one for the address, a padded number
and a policy in capitals. With a timeout that is no number there are no settings, and not even the
policy is looked at. -/
theorem settled_in_layers_of_file :
    let file : FileState := .text "[store]\nmax_connections = 9\nacquire_timeout_secs = 7\n"
    let env : Environment := fun name =>
      [("KEEPSYNC_DATABASE_URL", " "), ("DATABASE_URL", " db"),
        ("KEEPSYNC_MAX_CONNECTIONS", "\t+012 "),
        ("KEEPSYNC_MIGRATION_POLICY", "FAIL_fast")].lookup name
    let bad : Environment := fun name =>
      [("KEEPSYNC_ACQUIRE_TIMEOUT", "-0"), ("KEEPSYNC_MIGRATION_POLICY", "none")].lookup name
    ofFile "config.toml" file = .ok { maxConnections := 9, acquireTimeout := 7 } ∧
    resolve "config.toml" file env none =
      .ok ⟨" db", 12, 7, none, .failFast⟩ ∧
    resolve "config.toml" file env (some " ") = .ok ⟨" ", 12, 7, none, .failFast⟩ ∧
    resolve "config.toml" file bad (some " ") = .error (.invalidEnvironment
      (.configuration "KEEPSYNC_ACQUIRE_TIMEOUT: invalid number '-0'")) := by
  intro file env bad
  have found : ofFile "config.toml" file = .ok { maxConnections := 9, acquireTimeout := 7 } := by
    decide +kernel
  have unset {env : Environment} {name : String} (h : setting? env name = none) :=
    setting?_eq_none_iff.mp h
  have connections : SetTo env "KEEPSYNC_MAX_CONNECTIONS" "\t+012 " := ⟨rfl, by decide⟩
  have policy : SetTo env "KEEPSYNC_MIGRATION_POLICY" "FAIL_fast" := ⟨rfl, by decide⟩
  have layered : Layered { maxConnections := 9, acquireTimeout := 7 } env none
      ⟨" db", 12, 7, none, .failFast⟩ :=
    { url := .inr ⟨rfl, " db", .set ⟨rfl, by decide⟩ rfl, .kept (unset (by decide))⟩
      connections := .set connections (Decimal.readUnsigned?_eq_some_iff.mp (by decide))
      timeout := .kept (unset (by decide))
      dir := .kept (unset (by decide))
      policy := .set policy (by decide) }
  have unread (n : Nat) : ¬IsNumber 18446744073709551615 "-0" n := fun number => by
    have nothing : Decimal.readUnsigned? 18446744073709551615 (Text.trim "-0") = none := by decide
    rw [Decimal.readUnsigned?_eq_some_iff.mpr number] at nothing
    cases nothing
  obtain ⟨-, -, given, -⟩ := settled_in_layers "config.toml" file _ env none found
  obtain ⟨-, -, given', -⟩ := settled_in_layers "config.toml" file _ env (some " ") found
  obtain ⟨failed, -⟩ := settled_in_layers "config.toml" file _ bad (some " ") found
  exact ⟨found, (given _).mpr layered, (given' _).mpr (layered.withAddress (some " ")),
    (failed _).mpr ⟨_, .timeout (fun raw senseless => unset (by decide) raw senseless.1)
      ⟨⟨rfl, by decide⟩, unread⟩, rfl⟩⟩

end Config
end RecordSync
