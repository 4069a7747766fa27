import RecordSync.Lifecycle
import RecordSync.Proofs.Calls

/-!
# The policy is asked for failed migrations only

Opening a store at an address has three stages: the settings are checked, a connection is made, and
migrations are run. An address without text is refused twice, before the settings get the address
and again with them, and both refusals are one (`Lifecycle.connect_of_blank`), so the first two
stages together are connecting (`Lifecycle.run_openFrom_dsn`). The policy is not looked at before
the third stage is over, and there only the result can change by it, for all that was asked of the
store was asked already (`Lifecycle.run_applyMigrations`).

Key definitions: `Lifecycle.opened`, `Lifecycle.connected`, `Lifecycle.migrated`.
Key theorems: `Migration.exists_run_apply`, `Lifecycle.connect_of_invalid`,
`Lifecycle.connected_of_valid`, `Lifecycle.run_openFrom_dsn`, `Lifecycle.pool_of_openConfigured`,
`Lifecycle.policy_matters_only_for_failed_migrations`.
-/
namespace RecordSync

/-! ### Migrations -/

namespace Migration

/-- Migrations come to an end: some of them are asked for, and they succeed, or fail with an error
of their own. -/
theorem exists_run_apply (dirs : Directories) (dir : Option String) (s : Session) :
    ∃ (result : Except Halt Unit) (started : List Int),
      (apply dirs dir).run s = (result, { s with log := s.log ++ started.map Event.migration }) ∧
      (result = .ok () ∨ ∃ e, result = .error (.failed (.migration e))) := by
  have fails (e : MigrationError) : ∃ (result : Except Halt Unit) (started : List Int),
      (failWith e : Call Unit).run s =
        (result, { s with log := s.log ++ started.map Event.migration }) ∧
      (result = .ok () ∨ ∃ e, result = .error (.failed (.migration e))) := by
    refine ⟨.error (.failed (.migration e)), [], ?_, .inr ⟨e, rfl⟩⟩
    rw [List.map_nil, List.append_nil]
    rfl
  unfold apply
  cases resolve dirs dir with
  | error e => exact fails e
  | ok known =>
    dsimp only
    unfold run
    rw [Call.run_bind, Call.run_get]
    dsimp only
    cases s.acquire with
    | error e => exact fails (.run e)
    | ok =>
      dsimp only
      cases obstacle? known s.schema with
      | some e => exact fails e
      | none =>
        rcases runAll s.schema known with ⟨started, _ | e⟩
        · exact ⟨.ok (), started, rfl, .inl rfl⟩
        · exact ⟨.error (.failed (.migration e)), started, rfl, .inr ⟨e, rfl⟩⟩

theorem tame_apply (dirs : Directories) (dir : Option String) : (apply dirs dir).Tame := by
  intro s
  obtain ⟨result, started, run, -⟩ := exists_run_apply dirs dir s
  rw [run]
  exact ⟨rfl, List.prefix_append _ _⟩

end Migration

namespace Lifecycle

variable {env : Surroundings} {address : String} {c : Config} {policy : MigrationPolicy} {p : Pool}
  {s : Session} {e : StoreError}

/-- What comes of opening at an address under a policy. -/
def opened (env : Surroundings) (address : String) (c : Config) (policy : MigrationPolicy)
    (s : Session) : Except Halt Unit × Session :=
  (openFrom env (.dsn address) { c with migrationPolicy := policy }).run s

/-- The pool that connecting to an address gives, or its failure. -/
def connected (env : Surroundings) (address : String) (c : Config) : Except StoreError Pool :=
  connect env.network { c with databaseUrl := address }

/-- What comes of asking for the migrations of the settings as soon as there is a pool. -/
def migrated (env : Surroundings) (c : Config) (p : Pool) (s : Session) :
    Except Halt Unit × Session :=
  (migrate env c.migrationsDir).run { s with pool := p }

/-! ### Up to the connection -/

/-- A pool that is made by connecting is open and leads to the store. -/
theorem connect_eq_ok {network : Network} (h : connect network c = .ok p) :
    p = { reachable := true } := by
  simp only [connect, bind, Except.bind] at h
  split at h
  · cases h
  split at h
  · exact (Except.ok.inj h).symm
  · cases h

/-- What is refused without a look at the settings is refused with them in the same way. -/
theorem connect_of_blank {network : Network} (h : Config.requireUrl c.databaseUrl = .error e) :
    connect network c = .error e := by
  unfold connect Config.validate
  rw [h]
  rfl

/-- Settings without an address, or without a connection to make, are refused wherever the address
leads. -/
theorem connect_of_invalid {network : Network}
    (h : Text.trim c.databaseUrl = "" ∨ c.maxConnections = 0) :
    connect network c = .error (.configuration (if Text.trim c.databaseUrl = "" then "dsn is empty"
      else "max_connections must be greater than zero")) := by
  by_cases blank : Text.trim c.databaseUrl = ""
  · rw [if_pos blank]
    apply connect_of_blank
    unfold Config.requireUrl
    rw [if_pos (Text.trim_eq_empty_iff.mp blank)]
  · have none_allowed : c.maxConnections = 0 := h.resolve_left blank
    have there : Config.requireUrl c.databaseUrl = .ok () := by
      unfold Config.requireUrl
      rw [if_neg fun all => blank (Text.trim_eq_empty_iff.mpr all)]
    rw [if_neg blank]
    unfold connect Config.validate
    rw [there, none_allowed]
    rfl

/-- With text in the address and a connection to make, connecting comes to what the network makes of
it. -/
theorem connected_of_valid (there : Text.trim address ≠ "") (some_allowed : c.maxConnections ≠ 0) :
    connected env address c =
      match env.network.dial c.maxConnections c.acquireTimeout address with
      | .ok () => .ok { reachable := true }
      | .error e => .error (refusal e) := by
  have url : Config.requireUrl address = .ok () := by
    unfold Config.requireUrl
    rw [if_neg fun all => there (Text.trim_eq_empty_iff.mpr all)]
  unfold connected connect Config.validate
  dsimp only
  rw [url, if_neg some_allowed]
  rfl

/-- Opening at an address is connecting, and then migrating over the new pool. -/
theorem run_openFrom_dsn (env : Surroundings) (address : String) (c : Config) (s : Session) :
    (openFrom env (.dsn address) c).run s = match connected env address c with
      | .error e => (.error (.failed e), s)
      | .ok p => (applyMigrations env.directories { c with databaseUrl := address }).run
          { s with pool := p } := by
  unfold openFrom attach connected
  dsimp only
  rw [Call.run_bind, Call.run_ofExcept]
  cases blank : Config.requireUrl address with
  | error e =>
    have refused : connect env.network { c with databaseUrl := address } = .error e :=
      connect_of_blank blank
    rw [refused]
    rfl
  | ok =>
    dsimp only [Except.mapError]
    rw [Call.run_bind, Call.run_bind, Call.run_ofExcept]
    cases connect env.network { c with databaseUrl := address } <;> rfl

/-! ### From the connection on -/

/-- The policy changes nothing but a failure of migrations into success. -/
theorem run_applyMigrations (dirs : Migration.Directories) (c : Config) (s : Session) :
    (applyMigrations dirs c).run s = match c.migrationPolicy with
      | .failFast => (Migration.apply dirs c.migrationsDir).run s
      | .bestEffort => (.ok (), ((Migration.apply dirs c.migrationsDir).run s).2) := by
  unfold applyMigrations
  cases c.migrationPolicy with
  | failFast => rfl
  | bestEffort =>
    dsimp only
    rw [Call.run_tryCatch]
    obtain ⟨result, started, run, ends⟩ := Migration.exists_run_apply dirs c.migrationsDir s
    rw [run]
    rcases ends with rfl | ⟨e, rfl⟩
    · rfl
    · rfl

theorem tame_applyMigrations (dirs : Migration.Directories) (c : Config) :
    (applyMigrations dirs c).Tame := by
  intro s
  have tame := Migration.tame_apply dirs c.migrationsDir s
  rw [run_applyMigrations]
  cases c.migrationPolicy with
  | failFast => exact tame
  | bestEffort => exact tame

/-- A store that was opened at the address of its settings has an open pool that leads to it. -/
theorem pool_of_openConfigured {s' : Session}
    (done : (openConfigured env c).run s = (.ok (), s')) : s'.pool = { reachable := true } := by
  unfold openConfigured at done
  rw [run_openFrom_dsn] at done
  cases there : connected env c.databaseUrl c with
  | error e =>
    rw [there] at done
    cases (Prod.mk.inj done).1
  | ok p =>
    rw [there] at done
    have ends : (applyMigrations env.directories c).run { s with pool := p } = (.ok (), s') := done
    obtain ⟨kept, -⟩ := tame_applyMigrations env.directories c { s with pool := p }
    rw [ends] at kept
    exact kept.trans (connect_eq_ok there)

theorem opened_of_not_connected (h : connected env address c = .error e) :
    opened env address c policy s = (.error (.failed e), s) := by
  have same : connected env address { c with migrationPolicy := policy } = .error e := h
  unfold opened
  rw [run_openFrom_dsn, same]

theorem opened_failFast (h : connected env address c = .ok p) :
    opened env address c .failFast s = migrated env c p s := by
  have same : connected env address { c with migrationPolicy := .failFast } = .ok p := h
  unfold opened
  rw [run_openFrom_dsn, same]
  exact run_applyMigrations _ _ _

theorem opened_bestEffort (h : connected env address c = .ok p) :
    opened env address c .bestEffort s = (.ok (), (migrated env c p s).2) := by
  have same : connected env address { c with migrationPolicy := .bestEffort } = .ok p := h
  unfold opened
  rw [run_openFrom_dsn, same]
  exact run_applyMigrations _ _ _

theorem opened_alike : (opened env address c .bestEffort s).2 =
    (opened env address c .failFast s).2 := by
  cases h : connected env address c with
  | error e => rw [opened_of_not_connected h, opened_of_not_connected h]
  | ok p => rw [opened_bestEffort h, opened_failFast h]

/-- **The policy matters only for failed migrations.** Over a given pool a store is opened without
asking anything. At an address the settings' own address does not count; without text in the address
or without a connection to make opening is refused, wherever the address leads and whatever the
policy. Under both policies the same is asked of the store, the session is left alike, and a failed
connection is the same failure, whichever error of the client the network comes to. Once there is a
connection, opening that stops at failures is migrating explicitly, which succeeds or fails with an
error of migrations; opening that goes on gives an open store either way. -/
theorem policy_matters_only_for_failed_migrations (env : Surroundings) (c : Config) (s : Session) :
    (∀ p, (openFrom env (.pool p) c).run s = (.ok (), { s with pool := p })) ∧
    ∀ address,
      (∀ url, openFrom env (.dsn address) { c with databaseUrl := url } =
        openFrom env (.dsn address) c) ∧
      (Text.trim address = "" ∨ c.maxConnections = 0 → ∀ policy,
        opened env address c policy s =
          (.error (.failed (.configuration (if Text.trim address = "" then "dsn is empty"
            else "max_connections must be greater than zero"))), s)) ∧
      (opened env address c .bestEffort s).2 = (opened env address c .failFast s).2 ∧
      (∀ e, connected env address c = .error e → ∀ policy,
        opened env address c policy s = (.error (.failed e), s)) ∧
      (Text.trim address ≠ "" → c.maxConnections ≠ 0 →
        (∀ e, env.network.dial c.maxConnections c.acquireTimeout address = .error e → ∀ policy,
          opened env address c policy s = (.error (.failed (refusal e)), s)) ∧
        (env.network.dial c.maxConnections c.acquireTimeout address = .ok () →
          connected env address c = .ok { reachable := true })) ∧
      ∀ p, connected env address c = .ok p →
        opened env address c .failFast s = migrated env c p s ∧
        ((migrated env c p s).1 = .ok () ∨
          ∃ e, (migrated env c p s).1 = .error (.failed (.migration e))) ∧
        (opened env address c .bestEffort s).1 = .ok () ∧
        (opened env address c .bestEffort s).2.pool = p ∧ p.closed = false := by
  refine ⟨fun p => rfl, fun address => ⟨fun url => rfl, fun invalid policy => ?_, opened_alike,
    fun e unconnected policy => opened_of_not_connected unconnected,
    fun there some_allowed => ⟨fun e refused policy => ?_, fun dialled => ?_⟩, fun p there =>
    ⟨opened_failFast there, ?_, ?_, ?_, ?_⟩⟩⟩
  · exact opened_of_not_connected (connect_of_invalid (c := { c with databaseUrl := address })
      invalid)
  · apply opened_of_not_connected
    rw [connected_of_valid there some_allowed, refused]
  · rw [connected_of_valid there some_allowed, dialled]
  · obtain ⟨result, started, run, ends⟩ :=
      Migration.exists_run_apply env.directories c.migrationsDir { s with pool := p }
    unfold migrated migrate
    rw [run]
    exact ends
  · rw [opened_bestEffort there]
  · rw [opened_bestEffort there]
    exact (Migration.tame_apply env.directories c.migrationsDir { s with pool := p }).1
  · rw [connect_eq_ok there]

/-- The second migration fails: opening at an address fails or not as the policy says, with both
migrations asked for. An address of white space is refused, and so is a login; a closed pool is
taken as it is. -/
theorem policy_matters_only_for_failed_migrations_of_step :
    let env : Surroundings := { network := [("db", true)] }
    let s : Session :=
      { pool := { reachable := false }
        schema := { failure := some (2, .database .other "permission denied") } }
    let locked : Surroundings :=
      { network := ⟨fun _ _ _ => .error (.database .other "password authentication failed")⟩ }
    ((opened env "db" {} .failFast s).1 = .error (.failed (.migration
        (.step 2 (.database .other "permission denied")))) ∧
      (opened env "db" {} .bestEffort s).1 = .ok () ∧
      (opened env "db" {} .bestEffort s).2.log = [.migration 1, .migration 2]) ∧
    opened env " \n" {} .bestEffort s =
      (.error (.failed (.configuration "dsn is empty")), s) ∧
    opened locked "db" {} .bestEffort s = (.error (.failed
      (.ioFailure "connect" (.database .other "password authentication failed"))), s) ∧
    (openFrom env (.pool ⟨true, true⟩) {}).run s = (.ok (), { s with pool := ⟨true, true⟩ }) := by
  intro env s locked
  obtain ⟨given, opening⟩ := policy_matters_only_for_failed_migrations env {} s
  obtain ⟨-, closed⟩ := policy_matters_only_for_failed_migrations locked {} s
  obtain ⟨-, -, alike, -, -, connecting⟩ := opening "db"
  obtain ⟨explicit, -, goes_on, -⟩ := connecting { reachable := true } rfl
  obtain ⟨-, refused, -⟩ := opening " \n"
  have blank : Text.trim " \n" = "" := by decide
  obtain ⟨-, -, -, -, dialling, -⟩ := closed "db"
  obtain ⟨failing, -⟩ := dialling (by decide) (by decide)
  refine ⟨⟨?_, goes_on, ?_⟩, ?_, failing _ rfl .bestEffort, given ⟨true, true⟩⟩
  · rw [explicit]
    rfl
  · rw [alike, explicit]
    rfl
  · rw [refused (.inl blank), if_pos blank]

end Lifecycle
end RecordSync
