import RecordSync.Lifecycle
import RecordSync.Proofs.Refusals

/-!
# One pool, closed for all

Handles are copied freely and share their pool, so whoever closes it closes it for all. What is done
through handles is a list of turns; each is made in a session of its own, with whatever replies, log
and time, and only the pool passes from one turn to the next. Along every run all handles stay on
the one pool, and it is closed once a turn has closed it (`Handles.OnePool`). Everything else is
said about a single call on a closed pool.

A closed pool has no connection to give. What asks nothing of the store does not notice: refused
arguments, an ended context, an update without fields (`Invocation.Unasked`).

Key definitions: `Invocation.Unasked`, `Invocation.Reaches`, `Deed`, `Handles.Turn`,
`Handles.Runs`, `Handles.OnePool`.
Key theorems: `Invocation.reaches_iff`, `Invocation.run_of_closed`, `Handles.Runs.onePool`,
`Handles.closed_once_for_all`.
-/
namespace RecordSync

/-! ### Invocations that ask nothing -/

namespace Submission

variable {x : Submission} {y : x.Given}

/-- An accepted submission gives a value without asking exactly if it is idle. -/
theorem plan_eq_value_iff_idle (accepted : ∀ e, ¬x.FirstViolation e) :
    x.plan = .ok (.inl y) ↔ x.Idle y :=
  plan_eq_value_iff fun violates =>
    have ⟨e, first⟩ := exists_firstViolation_iff.mpr violates
    accepted e first

end Submission

namespace Invocation

variable {β : Type} {l : Limits} {r : Invocation β} {s : Session} {e : ValidationError}

/-- The arguments of the invocation are refused. -/
def Refused : {β : Type} → Invocation β → ValidationError → Prop
  | _, .submit x, e => x.FirstViolation e
  | _, @addShape _ _ user x, e => (addition user x).FirstViolation e
  | _, @updateShape _ _ user x, e => (change user x).FirstViolation e
  | _, _, _ => False

/-- The invocation is an update without fields, which writes no row. -/
def Idle : {β : Type} → Invocation β → β → Prop
  | _, .submit x, y => x.Idle y
  | _, @addShape _ _ user x, y => (addition user x).Idle y
  | _, @updateShape _ _ user x, y => (change user x).Idle y
  | _, _, _ => False

theorem plan_eq_error_iff : r.plan = .error e ↔ r.Refused e := by
  cases r with
  | submit x => exact Submission.plan_eq_error_iff
  | addShape user x => exact Submission.plan_eq_error_iff (x := addition user x)
  | updateShape user x => exact Submission.plan_eq_error_iff (x := change user x)
  | columns | read | userExists | userId | passwordHash | wholeUser =>
    simp only [plan, Refused, reduceCtorEq]

theorem plan_eq_value_iff {y : β} (accepted : ∀ e, ¬r.Refused e) :
    r.plan = .ok (.inl y) ↔ r.Idle y := by
  cases r with
  | submit x => exact Submission.plan_eq_value_iff_idle accepted
  | addShape user x => exact Submission.plan_eq_value_iff_idle (x := addition user x) accepted
  | updateShape user x => exact Submission.plan_eq_value_iff_idle (x := change user x) accepted
  | columns | read | userExists | userId | passwordHash | wholeUser => simp [plan, Idle]

/-- What the invocation gives when it asks nothing of the store. -/
inductive Unasked (l : Limits) (r : Invocation β) (now : Time) : Except Halt β → Prop
  | refused {e : ValidationError} (refused : r.Refused e) :
    Unasked l r now (.error (.failed (.invalidArgument e)))
  | ended {how : Ending} (accepted : ∀ e, ¬r.Refused e) (ended : l.ended now = some how) :
    Unasked l r now (.error (.failed (how.error r.op)))
  | idle {y : β} (accepted : ∀ e, ¬r.Refused e) (live : l.ended now = none) (idle : r.Idle y) :
    Unasked l r now (.ok y)

theorem accepted_iff : (∀ e, ¬r.Refused e) ↔ r.Accepted := by
  simp only [← plan_eq_error_iff, Accepted]
  cases r.plan <;> simp

/-- On a pool that is open and leads to the store, the invocation asks something. -/
def Reaches (l : Limits) (r : Invocation β) (s : Session) : Prop :=
  (r.call l).asked { s with pool := { reachable := true } } ≠ []

/-- What asks nothing runs alike on every pool, and changes nothing. -/
theorem Unasked.run_eq {result : Except Halt β} (unasked : r.Unasked l s.now result) (p : Pool) :
    (r.call l).run { s with pool := p } = (result, { s with pool := p }) := by
  obtain ⟨k, starts⟩ := r.exists_starts l
  cases unasked with
  | refused refused => rw [starts, plan_eq_error_iff.mpr refused]
  | ended accepted ended => exact run_of_ended (accepted_iff.mp accepted) ended
  | idle accepted live idle =>
    have check := (Session.check_ok_iff l r.op s.now).mpr live
    rw [starts, (plan_eq_value_iff accepted).mpr idle]
    simp only [check, Except.map, Except.mapError]

/-- An invocation asks nothing, or it starts with a question in a context that lasts. -/
theorem exists_unasked_or (l : Limits) (r : Invocation β) (now : Time) :
    (∃ result, r.Unasked l now result) ∨ ∃ q, r.plan = .ok (.inr q) ∧ l.ended now = none := by
  cases hp : r.plan with
  | error e => exact .inl ⟨_, .refused (plan_eq_error_iff.mp hp)⟩
  | ok first =>
    have accepted : ∀ e, ¬r.Refused e := accepted_iff.mpr ⟨first, hp⟩
    cases ended : l.ended now with
    | some how => exact .inl ⟨_, .ended accepted ended⟩
    | none =>
      cases first with
      | inl y => exact .inl ⟨_, .idle accepted ended ((plan_eq_value_iff accepted).mp hp)⟩
      | inr q => exact .inr ⟨q, rfl, rfl⟩

/-- A question that is sent stays in the log, whatever comes after it. -/
theorem reaches_of_plan {q : Query} (asks : r.plan = .ok (.inr q)) (live : l.ended s.now = none) :
    r.Reaches l s := by
  obtain ⟨k, tame, starts⟩ := r.exists_tame_starts l
  let o : Session := { s with pool := { reachable := true } }
  have clear := (Session.obstacle_eq_none_iff l r.op o).mpr ⟨live, rfl⟩
  obtain ⟨more, log⟩ : o.log ++ [.query q] <+: ((r.call l).run o).2.log := by
    rw [starts, asks]
    dsimp only
    rw [Call.run_bind, Session.run_ask, clear]
    dsimp only
    cases (Session.awaited l r.op o).1 with
    | error h => exact List.prefix_refl _
    | ok answer => exact (tame answer { o.sent q with now := (Session.awaited l r.op o).2 }).2
  change (r.call l).asked o ≠ []
  rw [Call.asked, ← log, List.append_assoc, List.drop_left]
  exact List.cons_ne_nil _ _

theorem reaches_iff : r.Reaches l s ↔ ∀ result, ¬r.Unasked l s.now result := by
  constructor
  · intro reaches result unasked
    refine reaches ?_
    rw [Call.asked, unasked.run_eq, List.drop_length]
  · intro asks
    rcases exists_unasked_or l r s.now with ⟨result, unasked⟩ | ⟨q, plan, live⟩
    · exact absurd unasked (asks result)
    · exact reaches_of_plan plan live

/-- A closed pool has no connection for an invocation that would have reached the store. -/
theorem run_of_closed (reaches : r.Reaches l s) (closed : s.pool.closed = true) :
    (r.call l).run s = (.error (.failed (.connectionFailed r.op .poolClosed)), s) := by
  obtain ⟨q, asks, live⟩ :=
    (exists_unasked_or l r s.now).resolve_left fun ⟨_, h⟩ => reaches_iff.mp reaches _ h
  obtain ⟨k, starts⟩ := r.exists_starts l
  have obstacle : Session.obstacle l r.op s = some (.connectionFailed r.op .poolClosed) := by
    have check := (Session.check_ok_iff l r.op s.now).mpr live
    rw [Session.obstacle, check, Session.acquire, if_pos closed]
    rfl
  rw [starts, asks]
  simp only [Call.run_bind, Session.run_ask, obstacle]

end Invocation

/-! ### What is done through handles -/

/-- Something done through a handle, by what it gives. -/
inductive Deed : Type → Type 1
  | close : Deed Bool
  | isClosed : Deed Bool
  | ping : Deed Bool
  | invoke {β : Type} (l : Limits) (r : Invocation β) : Deed β

namespace Deed

variable {β : Type}

/-- The call that the deed is. -/
def call : Deed β → Call β
  | .close => Lifecycle.close
  | .isClosed => Lifecycle.isClosed
  | .ping => Lifecycle.ping
  | .invoke l r => r.call l

/-- Whether the deed closes the pool. -/
def closes : Deed β → Bool
  | .close => true
  | _ => false

theorem run_close (s : Session) : Lifecycle.close.run s =
    (.ok !s.pool.closed, { s with pool := { s.pool with closed := true } }) := rfl

theorem run_isClosed (s : Session) : Lifecycle.isClosed.run s = (.ok s.pool.closed, s) := rfl

theorem run_ping (s : Session) :
    Lifecycle.ping.run s = (.ok (s.pool.reachable && !s.pool.closed), s) := by
  unfold Lifecycle.ping
  rw [Call.run_bind, Call.run_get]
  simp only [Call.run_pure, Session.acquire]
  cases s.pool.closed <;> cases s.pool.reachable <;> rfl

/-- A deed leaves the pool as it is, except that closing closes it. -/
theorem pool_run (d : Deed β) (s : Session) :
    (d.call.run s).2.pool = { s.pool with closed := s.pool.closed || d.closes } := by
  cases d with
  | close => simp [call, closes, run_close]
  | isClosed => simp [call, closes, run_isClosed]
  | ping => simp [call, closes, run_ping]
  | invoke l r => simp [call, closes, (r.tame l s).1]

/-- Through a closed pool nothing is asked, and no reply is taken. -/
theorem run_of_closed (d : Deed β) {s : Session} (closed : s.pool.closed = true) :
    (d.call.run s).2.log = s.log ∧ (d.call.run s).2.replies = s.replies := by
  cases d with
  | close => exact ⟨rfl, rfl⟩
  | isClosed => exact ⟨rfl, rfl⟩
  | ping => exact ⟨rfl, rfl⟩
  | invoke l r =>
    by_cases reaches : r.Reaches l s
    · rw [call, Invocation.run_of_closed reaches closed]
      exact ⟨rfl, rfl⟩
    · obtain ⟨result, unasked⟩ : ∃ result, r.Unasked l s.now result := by
        simpa [Invocation.reaches_iff] using reaches
      have ran : (r.call l).run s = (result, s) := unasked.run_eq s.pool
      rw [call, ran]
      exact ⟨rfl, rfl⟩

end Deed

namespace Handles

variable {reachable closed : Bool} {h h' : Handles}

/-- A turn: one more handle is made, or something is done through a handle, in a session with
replies, a log and a time of its own, with what it gives and the session that it leaves. -/
inductive Turn
  | share (i : Nat)
  | act {β : Type} (i : Nat) (d : Deed β) (given : Session) (result : Except Halt β)
    (left : Session)

namespace Turn

/-- In a list of turns, a turn comes after others at the beginning. -/
def Follows (t : Turn) (before turns : List Turn) : Prop := before ++ [t] <+: turns

/-- Whether the turn closes the pool. -/
def closes : Turn → Bool
  | .share _ => false
  | .act _ d _ _ _ => d.closes

/-- A turn that handles take. -/
inductive Takes : Turn → Handles → Handles → Prop
  | share {h : Handles} {i : Nat} (there : i < h.size) : Takes (.share i) h (h.share i)
  | act {h h' : Handles} {β : Type} {i : Nat} {d : Deed β} {given left : Session}
    {result : Except Halt β} (run : h.run? i d.call given = some (result, left, h')) :
    Takes (.act i d given result left) h h'

/-- No handle goes away. -/
theorem Takes.size_le {t : Turn} (takes : t.Takes h h') : h.size ≤ h'.size := by
  cases takes with
  | share there => simp [size, Handles.share]
  | act run =>
    obtain ⟨p, -, outcome⟩ := Option.map_eq_some_iff.mp run
    obtain ⟨-, rest⟩ := Prod.mk.inj outcome
    obtain ⟨-, rfl⟩ := Prod.mk.inj rest
    unfold setPool
    split <;> exact Nat.le_refl _

end Turn

/-- Handles after turns, one after the other. -/
inductive Runs (h : Handles) : List Turn → Handles → Prop
  | nil : Runs h [] h
  | snoc {turns : List Turn} {t : Turn} {h' h'' : Handles} (run : Runs h turns h')
    (takes : t.Takes h' h'') : Runs h (turns ++ [t]) h''

/-- All handles are on one pool, which is open or closed. -/
structure OnePool (h : Handles) (reachable closed : Bool) : Prop where
  pools : h.pools = [⟨reachable, closed⟩]
  owners : ∀ o ∈ h.owners, o = 0

namespace OnePool

theorem single (reachable : Bool) : OnePool (.single { reachable := reachable }) reachable false :=
  ⟨rfl, fun _ => List.mem_singleton.mp⟩

/-- A handle that there is has the one pool. -/
theorem pool?_eq (one : h.OnePool reachable closed) {i : Nat} {p : Pool}
    (there : h.pool? i = some p) : p = ⟨reachable, closed⟩ ∧ h.owners[i]? = some 0 := by
  obtain ⟨o, ho, hp⟩ := Option.bind_eq_some_iff.mp there
  obtain rfl := one.owners o (List.mem_of_getElem? ho)
  rw [one.pools] at hp
  exact ⟨(Option.some.inj hp).symm, ho⟩

theorem share (one : h.OnePool reachable closed) (i : Nat) :
    (h.share i).OnePool reachable closed where
  pools := one.pools
  owners o ho := by
    rcases List.mem_append.mp ho with ho | ho
    · exact one.owners o ho
    · exact one.owners o (List.mem_of_getElem? (Option.mem_toList.mp ho))

/-- What is done through a handle runs on the one pool, and all handles have the pool that it
leaves. -/
theorem run_eq (one : h.OnePool reachable closed) {β : Type} {i : Nat} {d : Deed β}
    {given left : Session} {result : Except Halt β}
    (run : h.run? i d.call given = some (result, left, h')) :
    d.call.run { given with pool := ⟨reachable, closed⟩ } = (result, left) ∧
      h'.OnePool reachable (closed || d.closes) := by
  obtain ⟨p, there, outcome⟩ := Option.map_eq_some_iff.mp run
  obtain ⟨rfl, owner⟩ := one.pool?_eq there
  have pool : (d.call.run { given with pool := ⟨reachable, closed⟩ }).2.pool =
      ⟨reachable, closed || d.closes⟩ := d.pool_run _
  rcases ran : d.call.run { given with pool := ⟨reachable, closed⟩ } with ⟨result', left'⟩
  simp only [ran] at outcome pool
  obtain ⟨rfl, rfl, rfl⟩ : result' = result ∧ left' = left ∧ h.setPool i left'.pool = h' := by
    simpa using outcome
  refine ⟨rfl, ?_, ?_⟩
  · simp only [setPool, owner, one.pools, List.set_cons_zero, pool]
  · simp only [setPool, owner]
    exact one.owners

/-- Anything can be done through a handle that there is. -/
theorem exists_run (one : h.OnePool reachable closed) {i : Nat} (there : i < h.size) {β : Type}
    (d : Deed β) (given : Session) :
    ∃ result left h', h.run? i d.call given = some (result, left, h') := by
  have owner : h.owners[i]? = some 0 := by
    rw [List.getElem?_eq_getElem there, one.owners _ (List.getElem_mem there)]
  have pool : h.pool? i = some ⟨reachable, closed⟩ := by
    rw [pool?, owner, one.pools]
    rfl
  rw [run?, pool]
  exact ⟨_, _, _, rfl⟩

/-- Every turn keeps all handles on the one pool, and only closing closes it. -/
theorem takes (one : h.OnePool reachable closed) {t : Turn} (takes : t.Takes h h') :
    h'.OnePool reachable (closed || t.closes) := by
  cases takes with
  | share there => simpa [Turn.closes] using one.share _
  | act run => exact (one.run_eq run).2

end OnePool

/-- All handles stay on the one pool, which is closed once a turn has closed it. -/
theorem Runs.onePool {turns : List Turn} (run : Runs h turns h')
    (one : h.OnePool reachable closed) :
    h'.OnePool reachable (closed || turns.any Turn.closes) := by
  induction run with
  | nil => simpa using one
  | snoc run takes ih =>
    rw [List.any_append, List.any_cons, List.any_nil, Bool.or_false, ← Bool.or_assoc]
    exact ih.takes takes

/-- A run can be cut before any of its turns. -/
theorem Runs.cut {turns before : List Turn} {t : Turn} (run : Runs h turns h')
    (split : t.Follows before turns) : ∃ h₁ h₂, Runs h before h₁ ∧ t.Takes h₁ h₂ := by
  -- The last turn is the one to cut before, or the run without it is cut.
  induction run with
  | nil =>
    have short := split.length_le
    simp at short
  | @snoc turns t' h₁ h₂ run takes ih =>
    rcases List.prefix_concat_iff.mp split with same | earlier
    · obtain ⟨rfl, last⟩ := List.append_inj' same rfl
      obtain rfl := List.singleton_inj.mp last
      exact ⟨h₁, h₂, run, takes⟩
    · exact ih earlier

/-- Each turn of a run on one handle is made on the pool, closed if a turn before has closed it. -/
theorem Runs.run_eq {turns before : List Turn} {β : Type} {i : Nat} {d : Deed β}
    {given left : Session} {result : Except Halt β}
    (run : Runs (.single { reachable := reachable }) turns h)
    (split : Turn.Follows (.act i d given result left) before turns) :
    d.call.run { given with pool := ⟨reachable, before.any Turn.closes⟩ } = (result, left) := by
  obtain ⟨h₁, h₂, before, takes⟩ := run.cut split
  have one := before.onePool (OnePool.single reachable)
  rw [Bool.false_or] at one
  cases takes with
  | act run => exact (one.run_eq run).1

/-- **Closed once for all.** Handles that share a pool are always good for a turn. Along every run
of turns the first closing gives that the pool was open, and every later one that it was not,
through whatever handle; from then on, and not before, every handle says that the pool is closed.
From then on the store does not answer, nothing is asked of it, and no reply is taken. An operation
that would have asked something on an open pool fails with its own name: the connection failed,
which may well pass. What would have asked nothing gives what it gives on an open pool. -/
theorem closed_once_for_all {turns : List Turn}
    (run : Runs (.single { reachable := reachable }) turns h) :
    (∀ i < h.size, ∀ (β : Type) (d : Deed β) given, ∃ result left h',
      Turn.Takes (.act i d given result left) h h') ∧
    (∀ before i given result left, Turn.Follows (.act i .close given result left) before turns →
      result = .ok !before.any Turn.closes) ∧
    (∀ before i given result left, Turn.Follows (.act i .isClosed given result left) before turns →
      result = .ok (before.any Turn.closes)) ∧
    (∀ before i given result left, Turn.Follows (.act i .ping given result left) before turns →
      result = .ok (reachable && !before.any Turn.closes)) ∧
    (∀ before i (β : Type) (d : Deed β) given result left,
      Turn.Follows (.act i d given result left) before turns → before.any Turn.closes = true →
      left.log = given.log ∧ left.replies = given.replies) ∧
    (∀ before i l (β : Type) (r : Invocation β) given result left,
      Turn.Follows (.act i (.invoke l r) given result left) before turns →
      before.any Turn.closes = true →
      (r.Reaches l given → result = .error (.failed (.connectionFailed r.op .poolClosed))) ∧
      (r.Reaches l given ↔ ∀ known, ¬r.Unasked l given.now known) ∧
      ∀ known, r.Unasked l given.now known → result = known ∧
        ((r.call l).run { given with pool := { reachable := true } }).1 = known) ∧
    ∀ op, (StoreError.connectionFailed op .poolClosed).isTransient = true ∧
      (StoreError.connectionFailed op .poolClosed).code = "CONNECTION_FAILED" := by
  refine ⟨fun i there β d given => ?_, fun before i given result left split => ?_,
    fun before i given result left split => ?_, fun before i given result left split => ?_,
    fun before i β d given result left split after => ?_,
    fun before i l β r given result left split after => ?_, fun op => ⟨rfl, rfl⟩⟩
  · have one := run.onePool (OnePool.single reachable)
    obtain ⟨result, left, h', ran⟩ := one.exists_run there d given
    exact ⟨result, left, h', .act ran⟩
  · exact (Prod.mk.inj (run.run_eq split)).1.symm
  · exact (Prod.mk.inj (run.run_eq split)).1.symm
  · have ran := run.run_eq split
    rw [Deed.call, Deed.run_ping] at ran
    exact (Prod.mk.inj ran).1.symm
  · have ran := run.run_eq split
    rw [after] at ran
    have kept := d.run_of_closed (s := { given with pool := ⟨reachable, true⟩ }) rfl
    rw [ran] at kept
    exact kept
  · have ran := run.run_eq split
    rw [after] at ran
    refine ⟨fun reaches => ?_, Invocation.reaches_iff, fun known unasked => ⟨?_, ?_⟩⟩
    · have failed := Invocation.run_of_closed (s := { given with pool := ⟨reachable, true⟩ })
        reaches rfl
      exact congrArg Prod.fst (ran.symm.trans failed)
    · exact congrArg Prod.fst (ran.symm.trans (unasked.run_eq _))
    · rw [unasked.run_eq]

/-- Two handles on one pool: the second one closes it, and the first one finds it closed. A record
is not added any more, an update without fields still gives that no row was written, and a context
that has ended is still what its call fails of. -/
theorem closed_once_for_all_of_two :
    let given : Session :=
      { pool := { reachable := true }, replies := [{ answer := .done 1 }], now := 3 }
    let user : UserId := ⟨7, by decide⟩
    let add : Invocation Nat := .submit (.record .textData user (.add "a" Fields.empty))
    let idle : Invocation Nat := .submit (.record .textData user (.update "a" Fields.empty))
    let late : Limits := { deadline := some 3 }
    ∃ s₁ s₂ s₃ s₄ s₅ h, Runs (.single { reachable := true })
      [.share 0, .act 1 .close given (.ok true) s₁, .act 0 .close given (.ok false) s₂,
        .act 1 (.invoke {} add) given
          (.error (.failed (.connectionFailed "add record" .poolClosed))) s₃,
        .act 0 (.invoke {} idle) given (.ok (0 : Nat)) s₄,
        .act 1 (.invoke late add) given
          (.error (.failed (.deadlineExceeded "add record"))) s₅] h ∧
      s₃.replies = [{ answer := .done 1 }] := by
  intro given user add idle late
  have two := Runs.nil.snoc (.share (by decide : 0 < (single { reachable := true }).size))
  obtain ⟨more, -⟩ := closed_once_for_all two
  obtain ⟨r₁, s₁, h₁, t₁⟩ := more 1 (by decide) Bool .close given
  have size₁ : 2 ≤ h₁.size := t₁.size_le
  have run₁ := two.snoc t₁
  obtain ⟨more, closing, -⟩ := closed_once_for_all run₁
  obtain rfl := closing _ _ _ _ _ (List.prefix_refl _)
  obtain ⟨r₂, s₂, h₂, t₂⟩ := more 0 (by omega) Bool .close given
  have size₂ : 2 ≤ h₂.size := size₁.trans t₂.size_le
  have run₂ := run₁.snoc t₂
  obtain ⟨more, closing, -⟩ := closed_once_for_all run₂
  obtain rfl := closing _ _ _ _ _ (List.prefix_refl _)
  obtain ⟨r₃, s₃, h₃, t₃⟩ := more 1 size₂ Nat (.invoke {} add) given
  have size₃ : 2 ≤ h₃.size := size₂.trans t₃.size_le
  have run₃ := run₂.snoc t₃
  obtain ⟨more, -, -, -, silent, invoked, -⟩ := closed_once_for_all run₃
  obtain ⟨failed, reaches, -⟩ := invoked _ _ _ _ _ _ _ _ (List.prefix_refl _) rfl
  obtain rfl := failed (Invocation.reaches_of_plan rfl rfl)
  obtain ⟨-, replies⟩ := silent _ _ _ _ _ _ _ (List.prefix_refl _) rfl
  obtain ⟨r₄, s₄, h₄, t₄⟩ := more 0 (by omega) Nat (.invoke {} idle) given
  have size₄ : 2 ≤ h₄.size := size₃.trans t₄.size_le
  have run₄ := run₃.snoc t₄
  obtain ⟨more, -, -, -, -, invoked, -⟩ := closed_once_for_all run₄
  obtain ⟨-, -, known⟩ := invoked _ _ _ _ _ _ _ _ (List.prefix_refl _) rfl
  have accepted (r : Invocation Nat) (h : r.Accepted) := Invocation.accepted_iff.mpr h
  obtain ⟨rfl, -⟩ := known (.ok (0 : Nat)) (.idle (accepted idle ⟨_, rfl⟩) rfl (.emptyUpdate rfl))
  obtain ⟨r₅, s₅, h₅, t₅⟩ := more 1 size₄ Nat (.invoke late add) given
  have run₅ := run₄.snoc t₅
  obtain ⟨-, -, -, -, -, invoked, -⟩ := closed_once_for_all run₅
  obtain ⟨-, -, known⟩ := invoked _ _ _ _ _ _ _ _ (List.prefix_refl _) rfl
  have ended : late.ended given.now = some .expired := rfl
  obtain ⟨rfl, -⟩ := known _ (.ended (accepted add ⟨_, rfl⟩) ended)
  exact ⟨s₁, s₂, s₃, s₄, s₅, h₅, run₅, replies⟩

end Handles
end RecordSync
