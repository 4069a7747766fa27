import RecordSync.Proofs.Calls

/-!
# The first of three

While a call waits for the store, three things may come: its token is cancelled, its deadline
passes, the answer arrives. The first one decides, and of those that come at the same time the first
named. What may end a call is looked at before it starts in the same order, so a call whose context
has ended asks nothing.

`Session.Comes` says what comes of waiting for one reply, without the functions that compute it, and
`Session.Heard` is the case in which the caller has an answer to go on with.

Key definitions: `Session.Comes`, `Session.Heard`, `Halt.Names`, `Session.Fetches`.
Key theorems: `Limits.ended_eq_cancelled_iff`, `Limits.ended_eq_expired_iff`,
`Limits.wait_eq_answered_iff`, `Limits.wait_eq_ended_iff`, `Session.comes_awaited`,
`Session.Comes.awaited_eq`, `Session.awaited_eq_ok_iff`, `Session.Comes.names`, `Session.fetches`.
-/
namespace RecordSync

/-! ### Limits -/

namespace Limits

variable {l : Limits} {now a t : Time} {how : Ending} {arrival : Option Time}

theorem reached_iff {limit : Option Time} :
    reached limit now = true ↔ ∃ t, limit = some t ∧ t ≤ now := by
  cases limit <;> simp [reached]

theorem reached_mono {limit : Option Time} (h : reached limit now = true) (hle : now ≤ t) :
    reached limit t = true := by
  obtain ⟨u, rfl, hu⟩ := reached_iff.mp h
  exact reached_iff.mpr ⟨u, rfl, Nat.le_trans hu hle⟩

/-- A call is cancelled once its token is, whether or not its deadline has passed as well. -/
theorem ended_eq_cancelled_iff :
    l.ended now = some .cancelled ↔ reached l.cancelledAt now = true := by
  unfold ended
  by_cases hc : reached l.cancelledAt now = true
  · simp [hc]
  · by_cases hd : reached l.deadline now = true <;> simp [hc, hd]

theorem eq_cancelled_iff (ended : l.ended now = some how) :
    how = .cancelled ↔ reached l.cancelledAt now = true := by
  rw [← ended_eq_cancelled_iff, ended, Option.some.injEq]

/-- A call expires when its deadline has passed and its token is not cancelled. -/
theorem ended_eq_expired_iff : l.ended now = some .expired ↔
    reached l.cancelledAt now = false ∧ reached l.deadline now = true := by
  unfold ended
  by_cases hc : reached l.cancelledAt now = true
  · simp [hc]
  · by_cases hd : reached l.deadline now = true <;> simp [hc, hd]

theorem ended_eq_none_iff : l.ended now = none ↔
    reached l.cancelledAt now = false ∧ reached l.deadline now = false := by
  unfold ended
  by_cases hc : reached l.cancelledAt now = true
  · simp [hc]
  · by_cases hd : reached l.deadline now = true <;> simp [hc, hd]

/-- What has not ended had not ended before. -/
theorem ended_none_of_le (h : l.ended t = none) (hle : now ≤ t) : l.ended now = none := by
  obtain ⟨hc, hd⟩ := ended_eq_none_iff.mp h
  have before {limit : Option Time} (hr : reached limit t = false) : reached limit now = false := by
    by_contra hn
    have hm := reached_mono (Bool.eq_true_of_not_eq_false hn) hle
    rw [hr] at hm
    cases hm
  exact ended_eq_none_iff.mpr ⟨before hc, before hd⟩

theorem ended_none_of_firstEnd (h : l.firstEnd = none) (u : Time) : l.ended u = none := by
  obtain ⟨c, d⟩ := l
  cases c with
  | none =>
    cases d with
    | none => rfl
    | some d => cases h
  | some c =>
    cases d with
    | none => cases h
    | some d =>
      unfold firstEnd at h
      dsimp only at h
      split at h <;> cases h

/-- The first end is an end, and there is none before it. -/
theorem ended_of_firstEnd (h : l.firstEnd = some (t, how)) :
    l.ended t = some how ∧ ∀ u < t, l.ended u = none := by
  obtain ⟨c, d⟩ := l
  cases c with
  | none =>
    cases d with
    | none => cases h
    | some d =>
      cases h
      exact ⟨ended_eq_expired_iff.mpr ⟨rfl, by simp [reached]⟩,
        fun u hu => ended_eq_none_iff.mpr ⟨rfl, by simpa [reached] using hu⟩⟩
  | some c =>
    cases d with
    | none =>
      cases h
      exact ⟨ended_eq_cancelled_iff.mpr (by simp [reached]),
        fun u hu => ended_eq_none_iff.mpr ⟨by simpa [reached] using hu, rfl⟩⟩
    | some d =>
      unfold firstEnd at h
      dsimp only at h
      split at h
      · rename_i hle
        cases h
        refine ⟨ended_eq_cancelled_iff.mpr (by simp [reached]), fun u hu => ?_⟩
        have : u < d := Nat.lt_of_lt_of_le hu hle
        exact ended_eq_none_iff.mpr ⟨by simpa [reached] using hu, by simpa [reached] using this⟩
      · rename_i hlt
        cases h
        have later : t < c := Nat.lt_of_not_le hlt
        refine ⟨ended_eq_expired_iff.mpr ⟨by simpa [reached] using later, by simp [reached]⟩,
          fun u hu => ?_⟩
        have : u < c := Nat.lt_trans hu later
        exact ended_eq_none_iff.mpr ⟨by simpa [reached] using this, by simpa [reached] using hu⟩

/-- The first end is the end at the first time at which the call has ended. -/
theorem firstEnd_eq_some_iff :
    l.firstEnd = some (t, how) ↔ l.ended t = some how ∧ ∀ u < t, l.ended u = none := by
  constructor
  · exact ended_of_firstEnd
  · intro ⟨ended, before⟩
    cases hf : l.firstEnd with
    | none => simp [ended_none_of_firstEnd hf t] at ended
    | some end_ =>
      obtain ⟨t', how'⟩ := end_
      obtain ⟨ended', before'⟩ := ended_of_firstEnd hf
      rcases Nat.lt_trichotomy t t' with hlt | rfl | hlt
      · simp [before' t hlt] at ended
      · rw [ended] at ended'
        rw [Option.some.inj ended']
      · simp [before t' hlt] at ended'

/-- The answer is what comes first if the call has not ended by the time at which it arrives. -/
theorem wait_eq_answered_iff : l.wait arrival = .answered a ↔
    arrival = some a ∧ l.ended a = none := by
  unfold wait
  cases hf : l.firstEnd with
  | none => cases arrival <;> simp [ended_none_of_firstEnd hf]
  | some end_ =>
    obtain ⟨t, how⟩ := end_
    obtain ⟨ended, before⟩ := ended_of_firstEnd hf
    cases arrival with
    | none => simp
    | some b =>
      by_cases hle : t ≤ b
      · have past : l.ended b ≠ none := fun hn => by simp [ended_none_of_le hn hle] at ended
        simp only [hle, ↓reduceIte, reduceCtorEq, Option.some.injEq, false_iff, not_and]
        rintro rfl
        exact past
      · simp only [hle, ↓reduceIte, Waited.answered.injEq, Option.some.injEq, iff_self_and]
        rintro rfl
        exact before b (Nat.lt_of_not_le hle)

/-- The end of the call is what comes first if no answer arrives before it. -/
theorem wait_eq_ended_iff : l.wait arrival = .ended t how ↔
    l.ended t = some how ∧ (∀ u < t, l.ended u = none) ∧ ∀ a, arrival = some a → t ≤ a := by
  rw [← and_assoc, ← firstEnd_eq_some_iff]
  unfold wait
  cases l.firstEnd with
  | none => cases arrival <;> simp
  | some end_ =>
    obtain ⟨t', how'⟩ := end_
    cases arrival with
    | none => simp
    | some b =>
      by_cases hle : t' ≤ b
      · simp only [hle, ↓reduceIte, Waited.ended.injEq, Option.some.injEq, Prod.mk.injEq,
          forall_eq']
        constructor
        · rintro ⟨rfl, rfl⟩
          exact ⟨⟨rfl, rfl⟩, hle⟩
        · exact And.left
      · simp only [hle, ↓reduceIte, reduceCtorEq, Option.some.injEq, Prod.mk.injEq, forall_eq',
          false_iff]
        rintro ⟨⟨rfl, rfl⟩, hb⟩
        exact hle hb

/-- Nothing ever comes if there is no answer and the call never ends. -/
theorem wait_eq_never_iff : l.wait arrival = .never ↔
    arrival = none ∧ ∀ u, l.ended u = none := by
  unfold wait
  cases hf : l.firstEnd with
  | none => cases arrival <;> simp [ended_none_of_firstEnd hf]
  | some end_ =>
    obtain ⟨t, how⟩ := end_
    have ended := (ended_of_firstEnd hf).1
    have some_end : ¬∀ u, l.ended u = none := fun h => by simp [h t] at ended
    cases arrival with
    | none => simp [some_end]
    | some b => by_cases hle : t ≤ b <;> simp [hle]

end Limits

/-! ### One reply -/

namespace Session

variable {l : Limits} {op : String} {s : Session} {answer : Answer} {after : Time}

/-- What may come of waiting for the next reply, and the time after it. -/
inductive Comes (l : Limits) (op : String) (s : Session) : Except Halt Answer → Time → Prop
  /-- The answer arrives before the call ends. -/
  | answer {delay : Nat} (arrives : s.nextReply.delay = some delay)
    (live : l.ended (s.now + delay) = none) :
    Comes l op s (heard op s.nextReply.answer) (s.now + delay + s.nextReply.pause)
  /-- The call ends before the answer arrives, or at the same time. -/
  | ending {t : Time} {how : Ending} (ended : l.ended t = some how)
    (first : ∀ u < t, l.ended u = none)
    (late : ∀ delay, s.nextReply.delay = some delay → t ≤ s.now + delay) :
    Comes l op s (.error (.failed (how.error op))) t
  /-- No answer arrives, and the call never ends. -/
  | silence (silent : s.nextReply.delay = none) (endless : ∀ u, l.ended u = none) :
    Comes l op s (.error .waiting) s.now

/-- **One way to wait.** What comes of waiting is one of three things. -/
theorem comes_awaited (l : Limits) (op : String) (s : Session) :
    Comes l op s (awaited l op s).1 (awaited l op s).2 := by
  unfold awaited
  cases hw : l.wait (s.nextReply.delay.map (s.now + ·)) with
  | never =>
    obtain ⟨silent, endless⟩ := Limits.wait_eq_never_iff.mp hw
    exact .silence (by simpa using silent) endless
  | ended t how =>
    obtain ⟨ended, first, late⟩ := Limits.wait_eq_ended_iff.mp hw
    exact .ending ended first fun delay hd => late (s.now + delay) (by simp [hd])
  | answered t =>
    obtain ⟨arrives, live⟩ := Limits.wait_eq_answered_iff.mp hw
    obtain ⟨delay, hd, rfl⟩ := Option.map_eq_some_iff.mp arrives
    exact .answer hd live

/-- What comes of waiting is settled by what arrives and what ends the call. -/
theorem Comes.awaited_eq {given : Except Halt Answer} (comes : Comes l op s given after) :
    awaited l op s = (given, after) := by
  cases comes with
  | @answer delay arrives live =>
    have wait : l.wait (s.nextReply.delay.map (s.now + ·)) = .answered (s.now + delay) :=
      Limits.wait_eq_answered_iff.mpr ⟨by simp [arrives], live⟩
    simp only [awaited, wait]
  | @ending _ how ended first late =>
    have wait : l.wait (s.nextReply.delay.map (s.now + ·)) = .ended after how := by
      refine Limits.wait_eq_ended_iff.mpr ⟨ended, first, fun a ha => ?_⟩
      obtain ⟨delay, arrives, rfl⟩ := Option.map_eq_some_iff.mp ha
      exact late delay arrives
    simp only [awaited, wait]
  | silence silent endless =>
    have wait : l.wait (s.nextReply.delay.map (s.now + ·)) = .never :=
      Limits.wait_eq_never_iff.mpr ⟨by simp [silent], endless⟩
    simp only [awaited, wait]

/-- The caller has an answer to go on with, and goes on at a time: a connection was there, the
context lasted, and the store neither refused nor dropped the query. -/
structure Heard (l : Limits) (s : Session) (answer : Answer) (after : Time) : Prop where
  ready : s.Ready l
  arrives : ∃ delay, s.nextReply.delay = some delay ∧ l.ended (s.now + delay) = none ∧
    after = s.now + delay + s.nextReply.pause
  answered : s.nextReply.answer = answer
  notRefused : ∀ code message, answer ≠ .refused code message
  notDropped : answer ≠ .dropped

theorem heard_eq_ok_iff {a : Answer} : heard op a = .ok answer ↔
    a = answer ∧ (∀ code message, answer ≠ .refused code message) ∧ answer ≠ .dropped := by
  cases a with
  | done n =>
    constructor
    · intro h
      obtain rfl := Except.ok.inj h
      exact ⟨rfl, nofun, nofun⟩
    · exact fun h => congrArg Except.ok h.1
  | rows columns rows =>
    constructor
    · intro h
      obtain rfl := Except.ok.inj h
      exact ⟨rfl, nofun, nofun⟩
    · exact fun h => congrArg Except.ok h.1
  | refused code message =>
    simp only [heard, reduceCtorEq, false_iff]
    rintro ⟨rfl, hr, -⟩
    exact hr code message rfl
  | dropped =>
    simp only [heard, reduceCtorEq, false_iff]
    rintro ⟨rfl, -, hd⟩
    exact hd rfl

/-- An answer is heard exactly when waiting for the reply comes to it. -/
theorem awaited_eq_ok_iff (ready : s.Ready l) :
    awaited l op s = (.ok answer, after) ↔ Heard l s answer after := by
  constructor
  · intro h
    have comes := comes_awaited l op s
    rw [h] at comes
    dsimp only at comes
    generalize hr : Except.ok answer = r at comes
    cases comes with
    | @answer delay arrives live =>
      obtain ⟨answered, notRefused, notDropped⟩ := heard_eq_ok_iff.mp hr.symm
      exact ⟨ready, ⟨delay, arrives, live, rfl⟩, answered, notRefused, notDropped⟩
    | ending => cases hr
    | silence => cases hr
  · intro h
    obtain ⟨delay, arrives, live, rfl⟩ := h.arrives
    have good : heard op s.nextReply.answer = .ok answer :=
      heard_eq_ok_iff.mpr ⟨h.answered, h.notRefused, h.notDropped⟩
    rw [(Comes.answer arrives live).awaited_eq, good]

/-- An answer that is heard is what comes. -/
theorem Heard.comes (h : Heard l s answer after) : Comes l op s (.ok answer) after := by
  have comes := comes_awaited l op s
  rwa [(awaited_eq_ok_iff h.ready).mpr h] at comes

theorem Heard.unique {answer' : Answer} {after' : Time} (h : Heard l s answer after)
    (h' : Heard l s answer' after') : answer = answer' ∧ after = after' := by
  have first : awaited l "" s = (.ok answer, after) := (awaited_eq_ok_iff h.ready).mpr h
  rw [(awaited_eq_ok_iff h.ready).mpr h'] at first
  obtain ⟨ha, ht⟩ := Prod.mk.inj first
  exact ⟨(Except.ok.inj ha).symm, ht.symm⟩

end Session

/-! ### Failures of a step -/

/-- A step of a call gives no value: it fails as the client reports during the operation, or as its
context has ended, and says which operation it was; or it is never answered. -/
inductive Halt.Names (op : String) : Halt → Prop
  | client (e : ClientError) : Names op (.failed (StoreError.classify op e))
  | context (how : Ending) : Names op (.failed (how.error op))
  | silence : Names op .waiting

/-- A step that says which operation it was refuses no argument. -/
theorem Halt.Names.ne_refused {op : String} {h : Halt} (names : h.Names op) (e : ValidationError) :
    h ≠ .failed (.invalidArgument e) := by
  cases names with
  | client c =>
    unfold StoreError.classify
    split <;> simp
  | context how => cases how <;> simp [Ending.error]
  | silence => simp

theorem Limits.names_of_check {l : Limits} {op : String} {now : Time} {e : StoreError}
    (h : l.check op now = .error e) : Halt.Names op (.failed e) := by
  unfold check at h
  cases hl : l.ended now with
  | none => simp [hl] at h
  | some how =>
    obtain rfl : how.error op = e := by simpa [hl] using h
    exact .context how

namespace Session

variable {l : Limits} {op : String} {s : Session} {after : Time}

theorem names_of_obstacle {e : StoreError} (h : obstacle l op s = some e) :
    Halt.Names op (.failed e) := by
  rcases obstacle_eq_some_iff.mp h with ⟨how, -, rfl⟩ | ⟨-, c, -, rfl⟩
  · exact .context how
  · exact .client c

/-- What is lost while it is waited for says which operation it was. -/
theorem Comes.names {h : Halt} (comes : Comes l op s (.error h) after) : h.Names op := by
  generalize hr : Except.error h = r at comes
  cases comes with
  | answer =>
    cases ha : s.nextReply.answer with
    | done n => simp [ha, heard] at hr
    | rows columns rows => simp [ha, heard] at hr
    | refused code message =>
      obtain rfl := Except.error.inj (hr.trans (congrArg (heard op) ha))
      exact .client _
    | dropped =>
      obtain rfl := Except.error.inj (hr.trans (congrArg (heard op) ha))
      exact .client _
  | ending =>
    obtain rfl := Except.error.inj hr
    exact .context _
  | silence =>
    obtain rfl := Except.error.inj hr
    exact .silence

/-- Only a silent store and a context without end leave a caller waiting. -/
theorem Comes.silent (comes : Comes l op s (.error .waiting) after) :
    s.nextReply.delay = none ∧ ∀ u, l.ended u = none := by
  generalize hr : Except.error Halt.waiting = r at comes
  cases comes with
  | answer => cases ha : s.nextReply.answer <;> simp [ha, heard] at hr
  | ending => simp at hr
  | silence silent endless => exact ⟨silent, endless⟩

/-- What is lost is not heard. -/
theorem Comes.unheard {h : Halt} {answer : Answer} {later : Time}
    (comes : Comes l op s (.error h) after) : ¬Heard l s answer later := by
  intro heard
  have given := comes.awaited_eq
  rw [(awaited_eq_ok_iff heard.ready).mpr heard] at given
  cases given

theorem names_of_awaited {h : Halt} (hw : (awaited l op s).1 = .error h) : h.Names op := by
  have comes := comes_awaited l op s
  rw [hw] at comes
  exact comes.names

/-- How the fetching of rows may go. -/
inductive Fetches (l : Limits) (op : String) (q : Query) (s : Session) :
    Except Halt (List Row) → Session → Prop
  /-- The query is not sent. -/
  | held {e : StoreError} (held : obstacle l op s = some e) :
    Fetches l op q s (.error (.failed e)) s
  /-- The query is sent, and no answer is heard. -/
  | lost {h : Halt} {after : Time} (ready : s.Ready l) (comes : Comes l op s (.error h) after) :
    Fetches l op q s (.error h) { s.sent q with now := after }
  /-- An answer is heard. -/
  | heard {answer : Answer} {after : Time} (heard : Heard l s answer after) :
    Fetches l op q s (.ok (rowsOf answer)) { s.sent q with now := after }

theorem fetches (l : Limits) (op : String) (q : Query) (s : Session) :
    Fetches l op q s ((fetch l op q).run s).1 ((fetch l op q).run s).2 := by
  rw [run_fetch]
  cases ho : obstacle l op s with
  | some e => exact .held ho
  | none =>
    have ready := (obstacle_eq_none_iff l op s).mp ho
    rcases hw : awaited l op s with ⟨h | answer, after⟩
    · have comes := comes_awaited l op s
      rw [hw] at comes
      exact .lost ready comes
    · exact .heard ((awaited_eq_ok_iff ready).mp hw)

end Session
end RecordSync
