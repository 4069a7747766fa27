import RecordSync.Proofs.Alignment
import RecordSync.Proofs.Arguments
import RecordSync.Proofs.Opening
import RecordSync.Proofs.Reads
import RecordSync.Proofs.Tasks

/-!
# Commands on records

A command on records looks up the user that it is given by name, and works on the records of that
user only. Without an id it asks nothing more. The store is closed whatever comes of the command,
and nothing is asked after that.

Key definitions: `Cli.Command.owner?`, `Session.Finds`, `Cli.Command.Asks`, `Query.Touches`,
`Query.SelectsOwn`.
Key theorems: `Cli.Command.Asks.selectsOwn`, `Cli.only_the_named_user`.
-/
namespace RecordSync

/-! ### Looking a user up -/

theorem Accounts.firstRow?_eq_some_iff {α : Type} {read : Row → Except ClientError α}
    {rows : List Row} {x : α} : firstRow? read rows = .ok (some x) ↔
      ∃ row rest, rows = row :: rest ∧ read row = .ok x := by
  cases rows with
  | nil => simp [firstRow?]
  | cons row rest =>
    rw [firstRow?]
    constructor
    · intro h
      cases hr : read row with
      | error e => simp [hr, Except.map] at h
      | ok y => exact ⟨row, rest, rfl, by simpa [hr, Except.map] using h⟩
    · rintro ⟨_, _, ⟨⟩, h⟩
      rw [h]
      rfl

namespace Session

variable {s : Session}

theorem ready_of_acquire (there : s.acquire = .ok ()) : s.Ready {} := ⟨rfl, there⟩

/-- The reply in hand comes, and its first row starts with the id of a user. -/
def Finds (s : Session) (user : UserId) : Prop :=
  ∃ answer after row rows, Heard {} s answer after ∧ rowsOf answer = row :: rows ∧
    Row.scalar Row.userIdScalar row = .ok user

/-- A reply that never comes is one of those in hand. -/
theorem exists_silent (h : s.nextReply.delay = none) : ∃ reply ∈ s.replies, reply.delay = none := by
  unfold nextReply at h
  cases hr : s.replies with
  | nil =>
    rw [hr] at h
    cases h
  | cons reply replies =>
    rw [hr] at h
    exact ⟨reply, List.mem_cons_self, h⟩

/-- A lookup sends its question, and gives the id that the reply starts with. -/
theorem run_userId (name : String) (there : s.acquire = .ok ()) : ∃ result after,
    (Accounts.userId {} name).run s = (result, { s.sent (Query.userId name) with now := after }) ∧
    (∀ user, result = .ok user ↔ Finds s user) ∧
    (result = .error .waiting → s.nextReply.delay = none) := by
  have fetches := fetches {} "get user id" (Query.userId name) s
  unfold Accounts.userId Accounts.lookup
  rw [Call.run_bind]
  generalize (fetch {} "get user id" (Query.userId name)).run s = c at fetches
  obtain ⟨result, s'⟩ := c
  cases fetches with
  | held held =>
    rw [(obstacle_eq_none_iff ..).mpr (ready_of_acquire there)] at held
    cases held
  | @lost h after ready comes =>
    refine ⟨.error h, after, rfl, fun user => ⟨nofun, ?_⟩, ?_⟩
    · rintro ⟨answer, after', row, rows, heard, -⟩
      exact absurd heard comes.unheard
    · rintro ⟨⟩
      exact comes.silent.1
  | @heard answer after heard =>
    have finds (user : UserId) : Finds s user ↔
        Accounts.firstRow? (Row.scalar Row.userIdScalar) (rowsOf answer) = .ok (some user) := by
      rw [Accounts.firstRow?_eq_some_iff]
      constructor
      · rintro ⟨answer', after', row, rows, heard', found⟩
        obtain ⟨rfl, -⟩ := heard.unique heard'
        exact ⟨row, rows, found⟩
      · rintro ⟨row, rows, found⟩
        exact ⟨answer, after, row, rows, heard, found⟩
    dsimp only
    rw [Call.run_bind, Call.run_ofClient]
    simp only [finds]
    rcases Accounts.firstRow? (Row.scalar Row.userIdScalar) (rowsOf answer) with e | _ | found
    · exact ⟨_, after, rfl, fun user => ⟨nofun, nofun⟩, nofun⟩
    · exact ⟨_, after, rfl, fun user => ⟨nofun, nofun⟩, nofun⟩
    · exact ⟨.ok found, after, rfl, fun user => by simp, nofun⟩

end Session

/-! ### Queries on rows of a user -/

/-- The table that a command is about; the catalog is none. -/
def Sql.Command.table? : Sql.Command → Option String
  | .insert table _ _ => some table
  | .update table _ _ => some table
  | .select _ table _ _ => some table
  | .catalog _ => none

/-- The conditions that rows have to satisfy. -/
def Sql.Command.conditions : Sql.Command → List Sql.Condition
  | .update _ _ conditions => conditions
  | .select _ _ conditions _ => conditions
  | _ => []

namespace Query

/-- The text of the query is about a table of records. -/
def Touches (q : Query) (t : Table) : Prop :=
  ∃ command, Sql.read? q.statement.text = some command ∧ command.table? = some t.catalogName

/-- The text of the query selects rows whose owner is a bound value, and that is the user's id. -/
def SelectsOwn (q : Query) (user : UserId) : Prop :=
  ∃ command n, Sql.read? q.statement.text = some command ∧
    .equal (.name "user_id") (.placeholder n) ∈ command.conditions ∧
    q.bound? n = some (.int user.value)

theorem selectsOwn_delete (t : Table) (user : UserId) (id : String) :
    (delete t user id).SelectsOwn user :=
  ⟨_, 1, Sql.read?_delete t 1 2, List.mem_cons_self, rfl⟩

theorem selectsOwn_select (t : Table) {names : List String} (some_name : names ≠ [])
    (user : UserId) (since : Option Instant) (includeDeleted : Bool) :
    (select t names user since includeDeleted).SelectsOwn user :=
  ⟨_, 1, Sql.read?_select t some_name 1 includeDeleted _, List.mem_cons_self, rfl⟩

theorem text_userId (name : String) :
    (userId name).statement.text = "SELECT id FROM users WHERE username = $1" := by
  have text : (Statement.userId 1).text = "SELECT id FROM users WHERE username = $1" := by decide
  exact text

theorem not_touches_columns (t t' : Table) : ¬(columns t).Touches t' := by
  rintro ⟨command, read, about⟩
  obtain rfl := Option.some.inj ((Sql.read?_columns 1).symm.trans read)
  cases about

end Query

namespace Cli

/-! ### What a command asks -/

/-- The name of the user whose records the command is about, if it is about records. -/
def Command.owner? : Command → Option String
  | .listRecords _ name _ _ _ => some name
  | .deleteRecord _ name _ => some name
  | _ => none

/-- The questions of a command on records, once the id of its user is known. -/
inductive Command.Asks (user : UserId) : Command → List Event → Prop
  /-- One record is marked as deleted. -/
  | delete {t : Table} {name id : String} (set : user.value ≠ 0) (named : id ≠ "") :
    Asks user (.deleteRecord t name id) [.query (Query.delete t user id)]
  /-- Without an id of the user or of the record nothing is asked. -/
  | refused {t : Table} {name id : String} (missing : user.value = 0 ∨ id = "") :
    Asks user (.deleteRecord t name id) []
  /-- A listing may end with the catalog. -/
  | columns {t : Table} {name : String} {since : Option Instant} {includeDeleted json : Bool} :
    Asks user (.listRecords t name since includeDeleted json) [.query (Query.columns t)]
  /-- Or it goes on to the rows, with the columns of the catalog. -/
  | rows {t : Table} {name : String} {since : Option Instant} {includeDeleted json : Bool}
    {names : List String} (some_name : names ≠ []) :
    Asks user (.listRecords t name since includeDeleted json)
      [.query (Query.columns t), .query (Query.select t names user since includeDeleted)]

/-- Every question about a table of records selects rows of the user. -/
theorem Command.Asks.selectsOwn {user : UserId} {cmd : Command} {events : List Event}
    (asks : cmd.Asks user events) {q : Query} {t : Table} (asked : .query q ∈ events)
    (touches : q.Touches t) : q.SelectsOwn user := by
  cases asks with
  | delete set named =>
    obtain rfl := Event.query.inj (List.mem_singleton.mp asked)
    exact Query.selectsOwn_delete _ user _
  | refused missing => cases asked
  | columns =>
    obtain rfl := Event.query.inj (List.mem_singleton.mp asked)
    exact absurd touches (Query.not_touches_columns _ t)
  | rows some_name =>
    rcases List.mem_cons.mp asked with first | second
    · obtain rfl := Event.query.inj first
      exact absurd touches (Query.not_touches_columns _ t)
    · obtain rfl := Event.query.inj (List.mem_singleton.mp second)
      exact Query.selectsOwn_select _ some_name user _ _

/-! ### How tasks end -/

/-- A run that started in a session has asked more, on the same pool. Unless it gives a text or a
report, it waits for a reply that never comes. -/
structure Ends (s : Session) (run : Except Halt (Except Failure String) × Session)
    (more : List Event) : Prop where
  pool : run.2.pool = s.pool
  log : run.2.log = s.log ++ more
  halts : ∀ h, run.1 = .error h → h = .waiting ∧ ∃ reply ∈ s.replies, reply.delay = none

variable {s : Session}

/-- A call and what is said about its result ask what the call asks. -/
theorem ends_attempt {α : Type} {c : Call α} {f : α → Task String} (heading : String)
    (tame : c.Tame) (gives : ∀ x, ∃ out, f x = pure out)
    (silent : (c.run s).1 = .error .waiting → ∃ reply ∈ s.replies, reply.delay = none) :
    Ends s ((attempt heading c >>= f).run.run s) (c.asked s) := by
  obtain ⟨pool, log⟩ := tame s
  have grown : (c.run s).2.log = s.log ++ c.asked s := by
    obtain ⟨more, hm⟩ := log
    rw [Call.asked, ← hm, List.drop_left]
  rw [run_bind, run_attempt]
  rcases hc : c.run s with ⟨(e | _) | x, s'⟩
  · rw [hc] at pool grown
    refine ⟨pool, grown, ?_⟩
    rintro _ ⟨⟩
  · rw [hc] at pool grown silent
    refine ⟨pool, grown, ?_⟩
    rintro _ ⟨⟩
    exact ⟨rfl, silent rfl⟩
  · rw [hc] at pool grown
    obtain ⟨out, said⟩ := gives x
    simp only [said]
    refine ⟨pool, grown, ?_⟩
    rintro _ ⟨⟩

/-- A deletion on an open pool asks to mark the record, if it is accepted. -/
theorem asks_delete (there : s.acquire = .ok ()) (t : Table) (name id : String) (user : UserId) :
    (Command.deleteRecord t name id).Asks user ((Engine.delete {} t user id).asked s) := by
  rw [Call.asked, Engine.run_delete]
  cases ha : Engine.checkAddress user id with
  | error e =>
    have refused : ¬(user.value ≠ 0 ∧ id ≠ "") := fun h => by
      rw [Engine.checkAddress_ok_iff.mpr ⟨rfl, h⟩] at ha
      cases ha
    dsimp only
    rw [List.drop_length]
    exact .refused (by tauto)
  | ok user' =>
    obtain ⟨rfl, set, named⟩ := Engine.checkAddress_ok_iff.mp ha
    have asked := Session.asked_execute {} "delete record" (Query.delete t user' id) s
    rw [if_pos (Session.ready_of_acquire there)] at asked
    change (Command.deleteRecord t name id).Asks user'
      ((Session.execute {} "delete record" (Query.delete t user' id)).asked s)
    rw [asked]
    exact .delete set named

/-- A listing on an open pool asks for the columns, and perhaps for the rows. -/
theorem asks_list (there : s.acquire = .ok ()) (t : Table) (name : String) (user : UserId)
    (since : Option Instant) (includeDeleted json : Bool) :
    (Command.listRecords t name since includeDeleted json).Asks user
      ((Engine.readAll {} t user since includeDeleted).asked s) := by
  have columns {events : List Event}
      (asks : Reader.Asks (.records t) {} user since includeDeleted s events) :
      (Engine.readAll {} t user since includeDeleted).asked s = events := asks.1
  by_cases listed : ∃ names after, Session.Listed {} s names after
  · obtain ⟨names, after, listed⟩ := listed
    by_cases conforms : Catalog.Conforms names
    · have some_name : names ≠ [] := by
        rintro rfl
        exact absurd (conforms.complete .deleted) (by decide)
      rw [columns (Reader.asks_of_live listed conforms rfl)]
      exact .rows some_name
    · rw [columns (Reader.asks_of_stopped listed fun h => conforms h.1)]
      exact .columns
  · have asks : Reader.Asks (.records t) {} user since includeDeleted s
        (if s.Ready {} then [.query (Query.columns t)] else []) :=
      Reader.asks_of_unlisted fun names after h => listed ⟨names, after, h⟩
    rw [if_pos (Session.ready_of_acquire there)] at asks
    rw [columns asks]
    exact .columns

/-- A deletion waits only for a reply that never comes. -/
theorem silent_of_delete {t : Table} {user : UserId} {id : String}
    (waiting : ((Engine.delete {} t user id).run s).1 = .error .waiting) :
    ∃ reply ∈ s.replies, reply.delay = none := by
  rw [Engine.run_delete] at waiting
  cases ha : Engine.checkAddress user id with
  | error e => simp [ha] at waiting
  | ok user' =>
    rw [ha] at waiting
    dsimp only at waiting
    rw [Session.run_execute] at waiting
    cases ho : Session.obstacle {} "delete record" s with
    | some e => simp [ho] at waiting
    | none =>
      have comes := Session.comes_awaited {} "delete record" s
      rw [ho] at waiting
      dsimp only at waiting
      rcases hw : (Session.awaited {} "delete record" s).1 with h | answer
      · rw [hw] at waiting comes
        obtain rfl := Except.error.inj waiting
        exact Session.exists_silent comes.silent.1
      · simp [hw, Except.map] at waiting

/-- A listing waits only for a reply that never comes. -/
theorem silent_of_list {t : Table} {user : UserId} {since : Option Instant} {includeDeleted : Bool}
    (waiting : ((Engine.readAll {} t user since includeDeleted).run s).1 = .error .waiting) :
    ∃ reply ∈ s.replies, reply.delay = none := by
  have goes := Reader.goes (.records t) {} user since includeDeleted s
  change Reader.Goes (.records t) {} user since includeDeleted s
    ((Engine.readAll {} t user since includeDeleted).run s).1 _ at goes
  rw [waiting] at goes
  obtain ⟨-, first | second⟩ := goes.of_waiting
  · exact Session.exists_silent first
  · obtain ⟨reply, left, silent⟩ := Session.exists_silent second
    exact ⟨reply, List.mem_of_mem_tail left, silent⟩

/-- **One way to work on records.** A command on records opens the store, looks its user up, and
goes on with the id, after which it asks what it is to ask. -/
theorem exists_task {cmd : Command} {name : String} (owner : cmd.owner? = some name) :
    ∃ next : UserId → Task String,
      (∀ env c, cmd.run env c = withStore env c (resolveUser name >>= next)) ∧
      ∀ user s, s.acquire = .ok () → ∃ more, cmd.Asks user more ∧
        Ends s ((next user).run.run s) more := by
  cases cmd with
  | listRecords t _ since includeDeleted json =>
    cases owner
    refine ⟨_, fun env c => rfl, fun user s there => ?_⟩
    have tame : (Engine.readAll {} t user since includeDeleted).Tame :=
      Invocation.tame {} (.read (.records t) user since includeDeleted)
    exact ⟨_, asks_list there t name user since includeDeleted json,
      ends_attempt _ tame (fun rs => ⟨_, rfl⟩) silent_of_list⟩
  | deleteRecord t _ id =>
    cases owner
    refine ⟨_, fun env c => rfl, fun user s there => ?_⟩
    have tame : (Engine.delete {} t user id).Tame :=
      Invocation.tame {} (.submit (.record t user (.delete id)))
    refine ⟨_, asks_delete there t name id user, ends_attempt _ tame (fun affected => ?_)
      silent_of_delete⟩
    split
    · exact ⟨_, rfl⟩
    · exact ⟨_, rfl⟩
  | _ => cases owner

/-- What starts with a lookup asks for the id first, and nothing more if there is none. -/
theorem ends_resolve {cmd : Command} {next : UserId → Task String} (name : String)
    (there : s.acquire = .ok ())
    (goes : ∀ user s, s.acquire = .ok () → ∃ more, cmd.Asks user more ∧
      Ends s ((next user).run.run s) more) :
    ∃ more, Ends s ((resolveUser name >>= next).run.run s) (.query (Query.userId name) :: more) ∧
      ((∀ user, ¬s.Finds user) →
        more = [] ∧ ∀ out, ((resolveUser name >>= next).run.run s).1 ≠ .ok (.ok out)) ∧
      ∀ user, s.Finds user → cmd.Asks user more := by
  obtain ⟨result, after, run, finds, silent⟩ := Session.run_userId name there
  have sent : { s.sent (Query.userId name) with now := after }.log =
    s.log ++ [.query (Query.userId name)] := rfl
  rw [run_bind, resolveUser, run_attempt, run]
  rcases result with (e | _) | user
  · exact ⟨[], ⟨rfl, sent, nofun⟩, fun _ => ⟨rfl, nofun⟩,
      fun user found => nomatch (finds user).mpr found⟩
  · refine ⟨[], ⟨rfl, sent, ?_⟩, fun _ => ⟨rfl, nofun⟩,
      fun user found => nomatch (finds user).mpr found⟩
    rintro _ ⟨⟩
    exact ⟨rfl, Session.exists_silent (silent rfl)⟩
  · obtain ⟨more, asks, ends⟩ := goes user { s.sent (Query.userId name) with now := after } there
    refine ⟨more, ⟨ends.pool, ?_, fun h halted => ?_⟩, fun none_found => ?_, fun user' found => ?_⟩
    · rw [ends.log, sent, List.append_assoc]
      rfl
    · obtain ⟨waits, reply, left, never⟩ := ends.halts h halted
      exact ⟨waits, reply, List.mem_of_mem_tail left, never⟩
    · exact absurd ((finds user).mp rfl) (none_found user)
    · obtain rfl := Except.ok.inj ((finds user').mpr found)
      exact asks

/-! ### Closing -/

theorem run_closing {α : Type} (t : Task α) (s : Session) :
    (closing t).run.run s = match t.run.run s with
      | (.ok r, left) => (.ok r, (Lifecycle.close.run left).2)
      | (.error h, left) => (.error h, left) := by
  change (t.run >>= fun result => Lifecycle.close >>= fun _ => pure result).run s = _
  rw [Call.run_bind]
  rcases t.run.run s with ⟨h | r, left⟩ <;> rfl

/-- A run on an opened store is the task of its command, closed behind it. -/
theorem run_perform {env : Surroundings} {sources : Config.Sources} {args : List String}
    {r : Request} {c : Config} {s₀ : Session} {t : Task String}
    (accepted : readArguments args = .ok r) (settings : sources.load r.databaseUrl = .ok c)
    (task : r.command.run env c = withStore env c t)
    (opened : (Lifecycle.openConfigured env c).run s₀ = (.ok (), s)) :
    (perform env sources args).run s₀ = match t.run.run s with
      | (.ok x, left) => (.ok (Exit.ofResult r x), (Lifecycle.close.run left).2)
      | (.error h, left) => (.error h, left) := by
  have stored : (r.run env sources).run.run s₀ = (closing t).run.run s := by
    rw [Request.run, settings]
    dsimp only
    rw [task, withStore, run_bind, run_attempt, opened]
  rw [perform, accepted]
  dsimp only
  rw [Call.run_bind, stored, run_closing]
  rcases t.run.run s with ⟨h | x, left⟩ <;> rfl

/-- **A command touches the records of the named user only.** On an opened store, it first asks for
the id of the name that the command line gives as the user. If no id is found, it asks nothing more
and fails. Otherwise it asks what it is to ask for that id, and every question about a table of
records selects rows of that id. It ends, unless a reply never comes; and whatever it ends with, the
store was open until then, is closed, and is asked nothing more. -/
theorem only_the_named_user {env : Surroundings} {sources : Config.Sources} {args : List String}
    {r : Request} {c : Config} {s₀ : Session} {name : String}
    (accepted : readArguments args = .ok r) (owner : r.command.owner? = some name)
    (settings : sources.load r.databaseUrl = .ok c)
    (opened : (Lifecycle.openConfigured env c).run s₀ = (.ok (), s)) :
    Names "user" args name ∧ (∀ id, r.command.text? .id = some id → Names "id" args id) ∧
    ∃ (lookup : Query) (more : List Event) (result : Except Halt Exit) (last : Session),
      (perform env sources args).run s₀ = (result, last) ∧
      lookup.statement.text = "SELECT id FROM users WHERE username = $1" ∧
      lookup.binds = [.text name] ∧ last.log = s.log ++ .query lookup :: more ∧
      ((∀ user, ¬s.Finds user) → more = [] ∧ ∀ exit, result = .ok exit → exit.code = 1) ∧
      (∀ user, s.Finds user → r.command.Asks user more ∧
        ∀ q t, .query q ∈ more → q.Touches t → q.SelectsOwn user) ∧
      ((∃ exit left, result = .ok exit ∧ Lifecycle.close.run left = (.ok true, last) ∧
          left.log = last.log ∧ last.pool.closed = true) ∨
        (result = .error .waiting ∧ ∃ reply ∈ s.replies, reply.delay = none)) := by
  have user_text : r.command.text? .user = some name := by
    cases hc : r.command <;> simp_all [Command.owner?, Command.text?]
  refine ⟨names_of_readArguments rfl accepted user_text,
    fun id text => names_of_readArguments rfl accepted text, ?_⟩
  have pool := Lifecycle.pool_of_openConfigured opened
  have there : s.acquire = .ok () := by
    rw [Session.acquire, pool]
    rfl
  obtain ⟨next, task, goes⟩ := exists_task owner
  obtain ⟨more, ends, unknown, known⟩ := ends_resolve name there goes
  have performed := run_perform accepted settings (task env c) opened
  have found (user : UserId) (h : s.Finds user) : r.command.Asks user more ∧
      ∀ q t, .query q ∈ more → q.Touches t → q.SelectsOwn user :=
    ⟨known user h, fun q t asked touches => (known user h).selectsOwn asked touches⟩
  rcases run : (resolveUser name >>= next).run.run s with ⟨h | x, left⟩
  · rw [run] at ends unknown performed
    obtain ⟨rfl, silent⟩ := ends.halts h rfl
    refine ⟨Query.userId name, more, _, left, performed, Query.text_userId name, rfl, ends.log,
      fun none_found => ⟨(unknown none_found).1, ?_⟩, found, .inr ⟨rfl, silent⟩⟩
    rintro _ ⟨⟩
  · rw [run] at ends unknown performed
    have closed : Lifecycle.close.run left = (.ok true, (Lifecycle.close.run left).2) := by
      have open_until : left.pool = { reachable := true } := ends.pool.trans pool
      unfold Lifecycle.close
      rw [Call.run_bind, Call.run_get]
      dsimp only
      rw [open_until]
      rfl
    refine ⟨Query.userId name, more, _, _, performed, Query.text_userId name, rfl, ends.log,
      fun none_found => ⟨(unknown none_found).1, ?_⟩, found,
      .inl ⟨Exit.ofResult r x, left, rfl, closed, rfl, rfl⟩⟩
    rintro _ ⟨⟩
    cases x with
    | error f => rfl
    | ok out => exact absurd rfl ((unknown none_found).2 out)

/-- A deletion for a user that is found, and one for a user that is not. -/
theorem only_the_named_user_of_deletion :
    let args :=
      ["records", "delete", "CardData", "--user", "ann", "--id=c1", "--database-url", "db"]
    let env : Surroundings := { network := [("db", true)] }
    let start (replies : List Reply) : Session :=
      { pool := { reachable := false }, replies := replies }
    let ids (rows : List (List Cell)) : Reply := { answer := .rows [⟨"id", "INT4"⟩] rows }
    let user : UserId := ⟨7, by decide⟩
    Names "user" args "ann" ∧
    (∃ lookup exit last,
      (perform env {} args).run (start [ids [[some [0, 0, 0, 7]]], { answer := .done 1 }]) =
        (.ok exit, last) ∧
      lookup.binds = [.text "ann"] ∧
      last.log = [.migration 1, .migration 2, .query lookup,
        .query (Query.delete .cardData user "c1")] ∧
      last.pool.closed = true) ∧
    ∃ lookup exit last, (perform env {} args).run (start [ids []]) = (.ok exit, last) ∧
      exit.code = 1 ∧ last.log = [.migration 1, .migration 2, .query lookup] ∧
      last.pool.closed = true := by
  intro args env start ids user
  let request : Request := ⟨false, some "db", .deleteRecord .cardData "ann" "c1"⟩
  let opened (replies : List Reply) : Session :=
    { pool := { reachable := true }, replies := replies, log := [.migration 1, .migration 2] }
  have run (replies : List Reply) := @only_the_named_user (opened replies) env {} args request
    { databaseUrl := "db" } (start replies) "ann" rfl rfl rfl rfl
  obtain ⟨given, -, lookup, more, result, last, performed, -, binds, log, -, known, ends⟩ :=
    run [ids [[some [0, 0, 0, 7]]], { answer := .done 1 }]
  obtain ⟨-, -, lookup', more', result', last', performed', -, -, log', unknown, -, ends'⟩ :=
    run [ids []]
  have finds : (opened [ids [[some [0, 0, 0, 7]]], { answer := .done 1 }]).Finds user :=
    ⟨_, _, _, _, ⟨⟨rfl, rfl⟩, ⟨0, rfl, rfl, rfl⟩, rfl, nofun, nofun⟩, rfl, rfl⟩
  have nobody (user : UserId) : ¬(opened [ids []]).Finds user := by
    rintro ⟨answer, after, row, rows, heard, given, -⟩
    rw [← heard.answered] at given
    cases given
  refine ⟨given, ?_, ?_⟩
  · obtain ⟨exit, left, rfl, -, -, closed⟩ | ⟨-, reply, there, never⟩ := ends
    · refine ⟨lookup, exit, last, performed, binds, ?_, closed⟩
      obtain ⟨asks, -⟩ := known user finds
      cases asks with
      | delete set named => exact log
      | refused missing => exact absurd missing (by decide)
    · rcases List.mem_pair.mp there with rfl | rfl <;> cases never
  · obtain ⟨rfl, fails⟩ := unknown nobody
    obtain ⟨exit, left, rfl, -, -, closed⟩ | ⟨-, reply, there, never⟩ := ends'
    · exact ⟨lookup', exit, last', performed', fails exit rfl, log', closed⟩
    · rcases List.mem_singleton.mp there with rfl
      cases never

end Cli
end RecordSync
