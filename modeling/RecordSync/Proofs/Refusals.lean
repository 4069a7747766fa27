import RecordSync.Proofs.Columns
import RecordSync.Proofs.Invocations

/-!
# Refused before anything is asked

The arguments of a submission are checked in a fixed order, and the first check that fails says why
it is refused. A refused submission leaves the session as it is, whatever the context and the pool.
One that is accepted still asks nothing if its context has ended, or if it is an update without
fields, or if there is no connection to have; else it sends one query and takes one reply.

Key definitions: `Submission.FirstViolation`, `Submission.Violates`, `Submission.Idle`.
Key theorems: `Submission.plan_eq_error_iff`, `Submission.exists_firstViolation_iff`,
`Submission.refused_iff`, `Submission.checked_before_asking`.
-/
namespace RecordSync

/-! ### Names of users -/

namespace Username

variable {s : String} {e : ValidationError}

theorem parse_eq_error_iff : parse s = .error e ↔
    (Text.trim s = "" ∧ e = .empty "username") ∨
      (Text.trim s ≠ "" ∧ limit < s.length ∧ e = .tooLong "username" limit) := by
  unfold parse
  rw [ne_eq, Text.trim_eq_empty_iff]
  by_cases hb : Text.allBlank s = false
  · by_cases hl : s.length ≤ limit
    · simp [hb, hl, Nat.not_lt.mpr hl]
    · simp [hb, hl, Nat.lt_of_not_le hl, eq_comm]
  · simp [hb, eq_comm]

end Username

/-! ### Refusals -/

namespace Engine

variable {t : Table} {user : UserId} {id : String} {fields : Fields} {e : ValidationError}

theorem checkAddress_eq_error_iff : checkAddress user id = .error e ↔
    (user.value = 0 ∧ e = .zeroUserId) ∨ (user.value ≠ 0 ∧ id = "" ∧ e = .empty "entry_id") := by
  unfold checkAddress UserId.requireSet requireEntryId
  by_cases hu : user.value = 0
  · simp [hu, bind, Except.bind, eq_comm]
  · by_cases hi : id = ""
    · simp [hu, hi, bind, Except.bind, eq_comm]
    · simp [hu, hi, bind, Except.bind]

theorem checkWrite_eq_error_iff : checkWrite t user id fields = .error e ↔
    checkAddress user id = .error e ∨
      (user.value ≠ 0 ∧ id ≠ "" ∧ t.resolve fields = .error e) := by
  unfold checkWrite
  cases ha : checkAddress user id with
  | error err =>
    have hn : ¬(user.value ≠ 0 ∧ id ≠ "") := fun h => by
      simp [checkAddress_ok_iff.mpr ⟨rfl, h⟩] at ha
    simp only [bind, Except.bind, Except.error.injEq, iff_self_or]
    exact fun h => absurd ⟨h.1, h.2.1⟩ hn
  | ok u =>
    obtain ⟨rfl, hu, hi⟩ := checkAddress_ok_iff.mp ha
    cases t.resolve fields <;> simp [bind, Except.bind, hu, hi]

end Engine

namespace Write

variable {t : Table} {user : UserId} {w : Write} {e : ValidationError}

/-- A write is refused for whose record it is or which, and then for its keys. -/
theorem query_eq_error_iff : w.query t user = .error e ↔
    Engine.checkAddress user w.id = .error e ∨
      (user.value ≠ 0 ∧ w.id ≠ "" ∧ t.resolve w.fields = .error e) := by
  rw [← Engine.checkWrite_eq_error_iff, query_eq_map]
  cases Engine.checkWrite t user w.id w.fields <;> simp [Except.map]

end Write

theorem Accounts.checkNew_eq_error_iff {name hash : String} {e : ValidationError} :
    checkNew name hash = .error e ↔
      (Text.trim name = "" ∧ e = .empty "username") ∨
      (Text.trim name ≠ "" ∧ Username.limit < name.length ∧
        e = .tooLong "username" Username.limit) ∨
      (Text.trim name ≠ "" ∧ name.length ≤ Username.limit ∧ hash = "" ∧
        e = .empty "password hash") := by
  unfold checkNew
  cases hn : Username.parse name with
  | error err =>
    have reasons := Username.parse_eq_error_iff.mp hn
    simp only [bind, Except.bind, Except.error.injEq]
    constructor
    · rintro rfl
      exact reasons.imp_right .inl
    · rintro (⟨blank, rfl⟩ | ⟨named, long, rfl⟩ | ⟨named, short, -, -⟩)
      · rcases reasons with ⟨-, rfl⟩ | ⟨named, -⟩
        · rfl
        · exact absurd blank named
      · rcases reasons with ⟨blank, -⟩ | ⟨-, -, rfl⟩
        · exact absurd blank named
        · rfl
      · rcases reasons with ⟨blank, -⟩ | ⟨-, long, -⟩
        · exact absurd blank named
        · exact absurd long (Nat.not_lt.mpr short)
  | ok username =>
    have accepted (e : ValidationError) : Username.parse name ≠ .error e := by simp [hn]
    have named : Text.trim name ≠ "" := fun blank =>
      accepted _ (Username.parse_eq_error_iff.mpr (.inl ⟨blank, rfl⟩))
    have short : name.length ≤ Username.limit := Nat.le_of_not_lt fun long =>
      accepted _ (Username.parse_eq_error_iff.mpr (.inr ⟨named, long, rfl⟩))
    by_cases hh : hash = ""
    · simp [bind, Except.bind, hh, named, short, Nat.not_lt.mpr short, eq_comm]
    · simp [bind, Except.bind, hh, named, Nat.not_lt.mpr short]

/-! ### The first violation -/

namespace Submission

variable {x : Submission} {e : ValidationError}

/-- The first check that the arguments of a submission fail, by what is said of it. -/
inductive FirstViolation : Submission → ValidationError → Prop
  | zeroUser {t : Table} {user : UserId} {w : Write} (zero : user.value = 0) :
    FirstViolation (.record t user w) .zeroUserId
  | emptyId {t : Table} {user : UserId} {w : Write} (set : user.value ≠ 0) (empty : w.id = "") :
    FirstViolation (.record t user w) (.empty "entry_id")
  | unlistedKey {t : Table} {user : UserId} {w : Write} {key : String} {e : ValidationError}
    (set : user.value ≠ 0) (given : w.id ≠ "") (first : w.fields.FirstUnlisted t key)
    (refuses : t.Refuses key e) : FirstViolation (.record t user w) e
  | blankName {name hash : String} (blank : Text.trim name = "") :
    FirstViolation (.account name hash) (.empty "username")
  | longName {name hash : String} (named : Text.trim name ≠ "") (long : 128 < name.length) :
    FirstViolation (.account name hash) (.tooLong "username" 128)
  | emptyHash {name hash : String} (named : Text.trim name ≠ "") (short : name.length ≤ 128)
    (empty : hash = "") : FirstViolation (.account name hash) (.empty "password hash")

/-- There is something wrong with the arguments of a submission. -/
def Violates : Submission → Prop
  | .record t user w => user.value = 0 ∨ w.id = "" ∨
      ∃ key ∈ w.fields.names, key ∉ t.dataColumns.map DataColumn.name
  | .account name hash => Text.trim name = "" ∨ 128 < name.length ∨ hash = ""

/-- The submission is an update without fields, which writes no row. -/
inductive Idle : (x : Submission) → x.Given → Prop
  | emptyUpdate {t : Table} {user : UserId} {id : String} {fields : Fields}
    (empty : fields.entries = []) : Idle (.record t user (.update id fields)) (0 : Nat)

/-- A submission is refused for its first violation. -/
theorem plan_eq_error_iff : x.plan = .error e ↔ x.FirstViolation e := by
  cases x with
  | record t user w =>
    have mapped : (Submission.record t user w).plan = .error e ↔ w.query t user = .error e := by
      rw [plan]
      cases w.query t user <;> simp [Except.map]
    rw [mapped, Write.query_eq_error_iff, Engine.checkAddress_eq_error_iff,
      Table.resolve_eq_error_iff]
    constructor
    · rintro ((⟨zero, rfl⟩ | ⟨set, empty, rfl⟩) | ⟨set, given, key, first, refuses⟩)
      · exact .zeroUser zero
      · exact .emptyId set empty
      · exact .unlistedKey set given first refuses
    · intro h
      cases h with
      | zeroUser zero => exact .inl (.inl ⟨zero, rfl⟩)
      | emptyId set empty => exact .inl (.inr ⟨set, empty, rfl⟩)
      | unlistedKey set given first refuses => exact .inr ⟨set, given, _, first, refuses⟩
  | account name hash =>
    have mapped : (Submission.account name hash).plan = .error e ↔
        Accounts.checkNew name hash = .error e := by
      rw [plan]
      cases Accounts.checkNew name hash <;> simp [Except.map]
    rw [mapped, Accounts.checkNew_eq_error_iff]
    constructor
    · rintro (⟨blank, rfl⟩ | ⟨named, long, rfl⟩ | ⟨named, short, empty, rfl⟩)
      · exact .blankName blank
      · exact .longName named long
      · exact .emptyHash named short empty
    · intro h
      cases h with
      | blankName blank => exact .inl ⟨blank, rfl⟩
      | longName named long => exact .inr (.inl ⟨named, long, rfl⟩)
      | emptyHash named short empty => exact .inr (.inr ⟨named, short, empty, rfl⟩)

/-- There is a first violation exactly when there is one at all. -/
theorem exists_firstViolation_iff : (∃ e, x.FirstViolation e) ↔ x.Violates := by
  constructor
  · rintro ⟨e, h⟩
    cases h with
    | zeroUser zero => exact .inl zero
    | emptyId _ empty => exact .inr (.inl empty)
    | unlistedKey _ _ first _ => exact .inr (.inr ⟨_, first.mem, first.unlisted⟩)
    | blankName blank => exact .inl blank
    | longName _ long => exact .inr (.inl long)
    | emptyHash _ _ empty => exact .inr (.inr empty)
  · intro h
    cases x with
    | record t user w =>
      by_cases zero : user.value = 0
      · exact ⟨_, .zeroUser zero⟩
      · by_cases empty : w.id = ""
        · exact ⟨_, .emptyId zero empty⟩
        · obtain ⟨key, mem, unlisted⟩ : ∃ key ∈ w.fields.names,
              key ∉ t.dataColumns.map DataColumn.name :=
            (h.resolve_left zero).resolve_left empty
          cases hr : t.resolve w.fields with
          | ok values => exact absurd hr (Table.resolve_ne_ok mem unlisted values)
          | error e =>
            obtain ⟨first, isFirst, refuses⟩ := Table.resolve_eq_error_iff.mp hr
            exact ⟨e, .unlistedKey zero empty isFirst refuses⟩
    | account name hash =>
      by_cases blank : Text.trim name = ""
      · exact ⟨_, .blankName blank⟩
      · by_cases long : 128 < name.length
        · exact ⟨_, .longName blank long⟩
        · exact ⟨_, .emptyHash blank (Nat.le_of_not_lt long)
            ((h.resolve_left blank).resolve_left long)⟩

/-- A submission without violation knows its value or asks. -/
theorem exists_plan_of_not_violates (h : ¬x.Violates) : ∃ first, x.plan = .ok first := by
  cases hp : x.plan with
  | ok first => exact ⟨first, rfl⟩
  | error e => exact absurd (exists_firstViolation_iff.mp ⟨e, plan_eq_error_iff.mp hp⟩) h

/-- Only an update without fields gives a value without asking. -/
theorem plan_eq_value_iff {y : x.Given} (h : ¬x.Violates) : x.plan = .ok (.inl y) ↔ x.Idle y := by
  cases x with
  | record t user w =>
    have mapped : (Submission.record t user w).plan = .ok (.inl y) ↔
        w.query t user = .ok none ∧ y = 0 := by
      rw [plan]
      rcases w.query t user with e | _ | q <;> simp [Except.map, eq_comm]
    rw [mapped, Write.query_eq_none_iff]
    constructor
    · rintro ⟨⟨-, -, id, fields, rfl, empty⟩, rfl⟩
      exact .emptyUpdate empty
    · intro idle
      cases idle with
      | emptyUpdate empty =>
        exact ⟨⟨fun hu => h (.inl hu), fun hi => h (.inr (.inl hi)), _, _, rfl, empty⟩, rfl⟩
  | account name hash =>
    have asks : (Submission.account name hash).plan ≠ .ok (.inl y) := by
      rw [plan]
      cases Accounts.checkNew name hash <;> simp [Except.map]
    refine iff_of_false asks fun idle => ?_
    cases idle

end Submission

/-! ### Refused before anything is asked -/

namespace Submission

variable {x : Submission} {l : Limits} {s : Session} {e : ValidationError}

/-- Once the arguments are accepted, nothing is said about them any more. -/
theorem result_ne_refused (answer : Answer) :
    x.result answer ≠ .error (.failed (.invalidArgument e)) := by
  cases x with
  | record t user w => exact nofun
  | account name hash =>
    intro h
    rw [result] at h
    cases hr : Accounts.firstRow (Row.scalar Row.userIdScalar) (Session.rowsOf answer) with
    | ok id => simp [hr, Except.mapError] at h
    | error c =>
      have names : Halt.Names "add user" (.failed (StoreError.classify "add user" c)) := .client c
      rw [hr] at h
      exact names.ne_refused e (Except.error.inj h)

/-- A submission is refused exactly for its first violation. -/
theorem refused_iff : ((x.call l).run s).1 = .error (.failed (.invalidArgument e)) ↔
    x.FirstViolation e := by
  rw [← plan_eq_error_iff, run_call]
  rcases x.plan with e' | y | q
  · simp
  · cases hl : l.check x.op s.now with
    | ok => simp [Except.map, Except.mapError]
    | error err =>
      simpa [Except.map, Except.mapError] using (Limits.names_of_check hl).ne_refused e
  · refine iff_of_false ?_ fun h => by cases h
    cases ho : Session.obstacle l x.op s with
    | some err => simpa using (Session.names_of_obstacle ho).ne_refused e
    | none =>
      cases hw : (Session.awaited l x.op s).1 with
      | error h => simpa [Except.bind] using (Session.names_of_awaited hw).ne_refused e
      | ok answer => exact result_ne_refused answer

theorem run_of_firstViolation (h : x.FirstViolation e) :
    (x.call l).run s = (.error (.failed (.invalidArgument e)), s) := by
  rw [run_call, plan_eq_error_iff.mpr h]

theorem run_of_ended {how : Ending} (accepted : ¬x.Violates) (ended : l.ended s.now = some how) :
    (x.call l).run s = (.error (.failed (how.error x.op)), s) :=
  Invocation.run_of_ended (r := .submit x) (exists_plan_of_not_violates accepted) ended

theorem run_of_idle {y : x.Given} (accepted : ¬x.Violates) (idle : x.Idle y)
    (live : l.ended s.now = none) : (x.call l).run s = (.ok y, s) := by
  rw [run_call, (plan_eq_value_iff accepted).mpr idle]
  simp only [(Session.check_ok_iff l x.op s.now).mpr live]
  rfl

theorem exists_query (accepted : ¬x.Violates) (busy : ∀ y, ¬x.Idle y) :
    ∃ q, x.plan = .ok (.inr q) := by
  obtain ⟨y | q, hp⟩ := exists_plan_of_not_violates accepted
  · exact absurd ((plan_eq_value_iff accepted).mp hp) (busy y)
  · exact ⟨q, hp⟩

theorem run_of_no_connection {c : ClientError} (accepted : ¬x.Violates) (busy : ∀ y, ¬x.Idle y)
    (live : l.ended s.now = none) (lacking : s.acquire = .error c) :
    (x.call l).run s = (.error (.failed (StoreError.classify x.op c)), s) := by
  obtain ⟨q, hp⟩ := exists_query accepted busy
  have obstacle : Session.obstacle l x.op s = some (StoreError.classify x.op c) := by
    rw [Session.obstacle, (Session.check_ok_iff l x.op s.now).mpr live, lacking]
  rw [run_call, hp]
  simp only [obstacle]

theorem run_of_ready (accepted : ¬x.Violates) (busy : ∀ y, ¬x.Idle y) (ready : s.Ready l) :
    ∃ q r after, x.plan = .ok (.inr q) ∧ s.Comes l x.op r after ∧
      (x.call l).run s = (r.bind x.result, { s.sent q with now := after }) := by
  obtain ⟨q, hp⟩ := exists_query accepted busy
  refine ⟨q, _, _, hp, Session.comes_awaited l x.op s, ?_⟩
  rw [run_call, hp]
  simp only [(Session.obstacle_eq_none_iff l x.op s).mpr ready]

/-- A submission asks at most once, and takes one reply if it does. -/
theorem asked_once (x : Submission) (l : Limits) (s : Session) :
    ((x.call l).asked s = [] ∧ ((x.call l).run s).2 = s) ∨
      ∃ q, (x.call l).asked s = [.query q] ∧ ((x.call l).run s).2.replies = s.replies.tail := by
  unfold Call.asked
  rw [run_call]
  rcases x.plan with e | y | q
  · exact .inl ⟨List.drop_length, rfl⟩
  · exact .inl ⟨List.drop_length, rfl⟩
  · cases Session.obstacle l x.op s with
    | some e => exact .inl ⟨List.drop_length, rfl⟩
    | none => exact .inr ⟨q, by simp [Session.sent], rfl⟩

/-- **Arguments are checked before anything is asked.** A submission is refused exactly when its
arguments violate something, for the first violation, and the session stays as it is whatever the
context and the pool. Otherwise an ended context fails it, an update without fields writes nothing,
and a lacking connection fails it, without a question in either case; else the query that it plans
is sent, this one only, and what comes of it decides. -/
theorem checked_before_asking (x : Submission) (l : Limits) (s : Session) :
    ((∃ e, x.FirstViolation e) ↔ x.Violates) ∧
    (∀ e, ((x.call l).run s).1 = .error (.failed (.invalidArgument e)) ↔ x.FirstViolation e) ∧
    (∀ e, x.FirstViolation e →
      (x.call l).run s = (.error (.failed (.invalidArgument e)), s)) ∧
    (∀ how, ¬x.Violates → l.ended s.now = some how →
      (x.call l).run s = (.error (.failed (how.error x.op)), s)) ∧
    (∀ y, ¬x.Violates → l.ended s.now = none → x.Idle y → (x.call l).run s = (.ok y, s)) ∧
    (∀ c, ¬x.Violates → l.ended s.now = none → (∀ y, ¬x.Idle y) → s.acquire = .error c →
      (x.call l).run s = (.error (.failed (StoreError.classify x.op c)), s)) ∧
    (¬x.Violates → l.ended s.now = none → (∀ y, ¬x.Idle y) → s.acquire = .ok () →
      ∃ q r after, x.plan = .ok (.inr q) ∧ s.Comes l x.op r after ∧
        (x.call l).run s = (r.bind x.result, { s.sent q with now := after })) ∧
    ((x.call l).asked s).length ≤ 1 ∧
    ((x.call l).run s).2.replies = s.replies.drop ((x.call l).asked s).length := by
  refine ⟨exists_firstViolation_iff, fun e => refused_iff, fun e h => run_of_firstViolation h,
    fun how accepted ended => run_of_ended accepted ended,
    fun y accepted live idle => run_of_idle accepted idle live,
    fun c accepted live busy lacking => run_of_no_connection accepted busy live lacking,
    fun accepted live busy there => run_of_ready accepted busy ⟨live, there⟩, ?_, ?_⟩
  · rcases asked_once x l s with ⟨asked, -⟩ | ⟨q, asked, -⟩ <;> simp [asked]
  · rcases asked_once x l s with ⟨asked, kept⟩ | ⟨q, asked, taken⟩
    · rw [asked, kept, List.length_nil, List.drop_zero]
    · rw [asked, taken, List.length_singleton, List.drop_one]

/-- A closed pool and a cancelled context, an addition with two keys that name no column, a name of
blanks with an empty hash, and an update without fields. On an open pool a deletion is sent. -/
theorem checked_before_asking_on_closed_pool :
    let s : Session := { pool := { reachable := true, closed := true } }
    let cancelled : Limits := { cancelledAt := some 0 }
    let user : UserId := ⟨7, by decide⟩
    let keys := Submission.record .credentials user
      (.add "a" (Fields.ofList [("zz", "1"), ("DELETED", "2"), ("login", "3")]))
    let blank := Submission.account " \t" ""
    let idle := Submission.record .textData user (.update "a" .empty)
    let deletion := Submission.record .textData user (.delete "a")
    (keys.call cancelled).run s =
      (.error (.failed (.invalidArgument (.reservedColumn "deleted"))), s) ∧
    ((blank.call cancelled).run s).1 = .error (.failed (.invalidArgument (.empty "username"))) ∧
    (idle.call cancelled).run s = (.error (.failed (.cancelled "update record")), s) ∧
    (idle.call {}).run s = (.ok (0 : Nat), s) ∧
    (deletion.call {}).run s =
      (.error (.failed (.connectionFailed "delete record" .poolClosed)), s) ∧
    ∃ q r after, deletion.plan = .ok (.inr q) ∧
      Session.Comes {} "delete record" { pool := { reachable := true } } r after ∧
      (deletion.call {}).run { pool := { reachable := true } } = (r.bind deletion.result,
        { Session.sent { pool := { reachable := true } } q with now := after }) := by
  intro s cancelled user keys blank idle deletion
  have accepted {w : Write} (given : w.id ≠ "") (bare : w.fields.names = []) :
      ¬(Submission.record .textData user w).Violates := by
    rintro (zero | empty | ⟨key, named, -⟩)
    · exact absurd zero (by decide)
    · exact given empty
    · rw [bare] at named
      exact List.not_mem_nil named
  have busy (y : Nat) : ¬Submission.Idle (.record .textData user (.delete "a")) y := nofun
  have first : Fields.FirstUnlisted (.ofList [("zz", "1"), ("DELETED", "2"), ("login", "3")])
      .credentials "DELETED" := ⟨by decide, by decide, by decide⟩
  obtain ⟨-, -, refused, -⟩ := checked_before_asking keys cancelled s
  obtain ⟨-, refused_iff, -⟩ := checked_before_asking blank cancelled s
  obtain ⟨-, -, -, ended, -⟩ := checked_before_asking idle cancelled s
  obtain ⟨-, -, -, -, idles, -⟩ := checked_before_asking idle {} s
  obtain ⟨-, -, -, -, -, lacking, -⟩ := checked_before_asking deletion {} s
  obtain ⟨-, -, -, -, -, -, sent, -⟩ :=
    checked_before_asking deletion {} { pool := { reachable := true } }
  refine ⟨refused _ ?_, (refused_iff _).mpr (.blankName ?_),
    ended .cancelled (accepted (by decide) rfl) rfl,
    idles _ (accepted (by decide) rfl) rfl (.emptyUpdate rfl),
    lacking _ (accepted (by decide) rfl) rfl busy rfl,
    sent (accepted (by decide) rfl) rfl busy rfl⟩
  · have reserved : Table.Refuses .credentials "DELETED" (.reservedColumn "deleted") :=
      Table.Refuses.reserved (c := ConventionColumn.deleted) (by decide)
    exact .unlistedKey (by decide) (by decide) first reserved
  · decide

end Submission
end RecordSync
