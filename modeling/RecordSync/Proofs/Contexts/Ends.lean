import RecordSync.Proofs.Contexts.Deadlines
import RecordSync.Proofs.Contexts.Tokens
import RecordSync.Proofs.Reads

/-!
# How contexts end invocations

A context that was cancelled, or whose deadline has passed, ends every invocation whose arguments
are accepted before it asks anything. While an invocation waits for its first answer, the
cancellation, the deadline and the answer are looked at in this order. Only a read asks a second
time, and there the context is looked at in the same two places. Together with what histories say of
tokens and deadlines this is all there is to contexts.

Key theorems: `Contexts.ended_limits`, `Invocation.run_of_first_end`, `Invocation.run_of_answer`,
`Contexts.end_invocations`.
-/
namespace RecordSync

namespace Contexts

variable {s : Contexts} {c : Context}

/-- How a context has ended: cancellation is looked at first. -/
theorem ended_limits (s : Contexts) (c : Context) : (s.limits c).ended s.now =
    if s.isCancelled c then some .cancelled
    else if Limits.reached c.deadline s.now then some .expired
    else none := by
  unfold Limits.ended limits
  by_cases hc : s.isCancelled c = true
  · simp [hc, Limits.reached]
  · simp [hc, Limits.reached]

end Contexts

namespace Invocation

variable {β : Type} {r : Invocation β} {l : Limits} {σ : Session} {q : Query} {t : Time}
  {how : Ending}

/-- Of what comes while the first answer is waited for, the end of the context decides if the answer
does not come before it. -/
theorem run_of_first_end (asks : r.plan = .ok (.inr q)) (ready : σ.Ready l)
    (ended : l.ended t = some how) (first : ∀ u < t, l.ended u = none)
    (late : ∀ delay, σ.nextReply.delay = some delay → t ≤ σ.now + delay) :
    (r.call l).run σ = (.error (.failed (how.error r.op)), { σ.sent q with now := t }) := by
  have lost : Session.awaited l r.op σ = (.error (.failed (how.error r.op)), t) :=
    (Session.Comes.ending ended first late).awaited_eq
  have run := run_of_awaited asks ready (congrArg Prod.fst lost)
  rwa [lost] at run

/-- The answer decides if the context lasts until it comes. -/
theorem run_of_answer {k : Answer → Call β} {delay : Nat} (starts : r.Starts l k)
    (asks : r.plan = .ok (.inr q)) (ready : σ.Ready l) (arrives : σ.nextReply.delay = some delay)
    (live : l.ended (σ.now + delay) = none) : (r.call l).run σ =
      match Session.heard r.op σ.nextReply.answer with
      | .error h =>
        (.error h, { σ.sent q with now := σ.now + delay + σ.nextReply.pause })
      | .ok answer =>
        (k answer).run { σ.sent q with now := σ.now + delay + σ.nextReply.pause } := by
  have come : Session.awaited l r.op σ = (Session.heard r.op σ.nextReply.answer,
      σ.now + delay + σ.nextReply.pause) := (Session.Comes.answer arrives live).awaited_eq
  rw [starts, asks]
  have clear := (Session.obstacle_eq_none_iff l r.op σ).mpr ready
  simp only [Call.run_bind, Session.run_ask, clear, come]
  cases Session.heard r.op σ.nextReply.answer <;> rfl

end Invocation

namespace Contexts

variable {s s' : Contexts} {c : Context} {i : Nat} {start : Time} {as bs : List Act}

/-- Cancellation is never undone. -/
theorem isCancelled_of_run? (h : run? { now := start } as = some s) (h' : s.run? bs = some s')
    (there : s.contexts[i]? = some c) (cancelled : s.isCancelled c = true) :
    s'.isCancelled c = true := by
  have whole : run? { now := start } (as ++ bs) = some s' := by
    rw [run?_append, h, Option.bind_some, h']
  have tracks := tracks_of_run? whole
  rw [makings_append] at tracks
  exact (tracks_of_run? h).isCancelled_of_append tracks there (getElem?_of_run? h' there) cancelled

/-- **Contexts end invocations.** After every history: a context is cancelled exactly when `cancel`
was called on a context that shares its token or that it descends from, so never for a descendant or
a sibling; contexts stay as they are, and cancelled ones stay cancelled. The deadline of a context
is the earliest that was applied to it, whatever the order; a timeout beyond what the clock can show
changes nothing, and a child has no later deadline than its parent. Every invocation whose arguments
are accepted and whose context has ended asks nothing and leaves the session alone; it fails as
cancelled if the context is, else for its deadline. While its first answer is waited for, the
cancellation, the deadline and the answer are looked at in this order. When a read has a list of
columns that conforms, an ended context keeps the rows from being asked for, and while their answer
is waited for, the same three are looked at in the same order. -/
theorem end_invocations (start : Time) (as : List Act) (s : Contexts)
    (h : run? { now := start } as = some s) :
    let ms := makings start as
    (∀ (i : Nat) (c : Context), s.contexts[i]? = some c → (s.isCancelled c = true ↔
      ∃ j, .cancel j ∈ as ∧ (Shares ms j i ∨ Descends ms i j))) ∧
    (∀ i j, Descends ms j i ∨ Siblings ms j i → ¬(Shares ms j i ∨ Descends ms i j)) ∧
    (∀ (bs : List Act) (s' : Contexts), s.run? bs = some s' →
      ∀ (i : Nat) (c : Context), s.contexts[i]? = some c → s'.contexts[i]? = some c ∧
        (s.isCancelled c = true → s'.isCancelled c = true)) ∧
    (∀ (i : Nat) (c : Context), s.contexts[i]? = some c → Earliest (Applied ms i) c.deadline) ∧
    (∀ (start' : Time) (bs : List Act) (s' : Contexts) (i j : Nat) (c c' : Context),
      run? { now := start' } bs = some s' → s.contexts[i]? = some c → s'.contexts[j]? = some c' →
      (∀ t, Applied ms i t ↔ Applied (makings start' bs) j t) → c.deadline = c'.deadline) ∧
    (∀ (i : Nat) (c : Context) (duration : Nat) (s' : Contexts), s.contexts[i]? = some c →
      Clock.latest < s.now + duration → s.act? (.timeout i duration) = some s' →
      s'.contexts[s.contexts.length]? = some c) ∧
    (∀ (i j : Nat) (c c' : Context) (d : Time), Links Act.inherited? ms j i →
      s.contexts[i]? = some c → s.contexts[j]? = some c' → c.deadline = some d →
      ∃ d' ≤ d, c'.deadline = some d') ∧
    (∀ (i : Nat) (c : Context), s.contexts[i]? = some c →
      ∀ (β : Type) (r : Invocation β) (σ : Session), r.Accepted → σ.now = s.now →
      (s.isCancelled c = true →
        (r.call (s.limits c)).run σ = (.error (.failed (.cancelled r.op)), σ)) ∧
      (∀ d ≤ s.now, s.isCancelled c = false → c.deadline = some d →
        (r.call (s.limits c)).run σ = (.error (.failed (.deadlineExceeded r.op)), σ))) ∧
    (∀ (β : Type) (r : Invocation β) (l : Limits), ∃ k : Answer → Call β,
      ∀ (q : Query) (σ : Session), r.plan = .ok (.inr q) → σ.Ready l →
      (∀ t how, l.ended t = some how → (∀ u < t, l.ended u = none) →
        (∀ delay, σ.nextReply.delay = some delay → t ≤ σ.now + delay) →
        (how = .cancelled ↔ Limits.reached l.cancelledAt t = true) ∧
        (r.call l).run σ = (.error (.failed (how.error r.op)), { σ.sent q with now := t })) ∧
      (∀ delay, σ.nextReply.delay = some delay → l.ended (σ.now + delay) = none →
        (r.call l).run σ = match Session.heard r.op σ.nextReply.answer with
          | .error h => (.error h, { σ.sent q with now := σ.now + delay + σ.nextReply.pause })
          | .ok answer =>
            (k answer).run { σ.sent q with now := σ.now + delay + σ.nextReply.pause })) ∧
    ∀ (β : Type) (r : Reader β) (l : Limits) (user : UserId) (since : Option Instant)
      (includeDeleted : Bool) (σ : Session) (names : List String) (after : Time),
      Session.Listed l σ names after → Catalog.Conforms names →
      let σ' := r.askedColumns σ after
      let rows := Query.select r.table names user since includeDeleted
      (∀ how, l.ended after = some how → (r.call l user since includeDeleted).run σ =
        (.error (.failed (how.error "get all records")), σ')) ∧
      (∀ t how, l.ended after = none → l.ended t = some how → (∀ u < t, l.ended u = none) →
        (∀ delay, σ'.nextReply.delay = some delay → t ≤ after + delay) →
        (how = .cancelled ↔ Limits.reached l.cancelledAt t = true) ∧
        (r.call l user since includeDeleted).run σ =
          (.error (.failed (how.error "get all records")), { σ'.sent rows with now := t })) ∧
      (∀ delay, l.ended after = none → σ'.nextReply.delay = some delay →
        l.ended (after + delay) = none →
        (r.call l user since includeDeleted).run σ =
          ((Session.heard "get all records" σ'.nextReply.answer).bind fun answer =>
              (r.decode (Session.rowsOf answer)).mapError Halt.failed,
            { σ'.sent rows with now := after + delay + σ'.nextReply.pause })) := by
  intro ms
  have tracks := tracks_of_run? h
  have timed := timed_of_run? h
  refine ⟨fun i c there => tracks.isCancelled_iff there, ?_, ?_,
    fun i c there => timed.deadlines there, ?_,
    fun i c duration s' there long acted => getElem?_of_long_timeout there long acted,
    fun i j c c' d link there there' hd => timed.not_later link there there' hd, ?_, ?_, ?_⟩
  · rintro i j (descends | siblings)
    · exact tracks.not_reached_of_descends descends
    · exact tracks.not_reached_of_siblings siblings
  · intro bs s' h' i c there
    exact ⟨getElem?_of_run? h' there, isCancelled_of_run? h h' there⟩
  · intro start' bs s' i j c c' h' there there' same
    exact (timed.deadlines there).congr same |>.unique ((timed_of_run? h').deadlines there')
  · intro i c there β r σ accepted now
    refine ⟨fun cancelled => ?_, fun d past live hd => ?_⟩
    · have ended : (s.limits c).ended σ.now = some .cancelled := by
        rw [now, ended_limits, if_pos cancelled]
      exact Invocation.run_of_ended accepted ended
    · have reached : Limits.reached c.deadline s.now = true :=
        Limits.reached_iff.mpr ⟨d, hd, past⟩
      have ended : (s.limits c).ended σ.now = some .expired := by
        rw [now, ended_limits, if_neg (by simp [live]), if_pos reached]
      exact Invocation.run_of_ended accepted ended
  · intro β r l
    obtain ⟨k, starts⟩ := r.exists_starts l
    refine ⟨k, fun q σ asks ready => ⟨fun t how ended first late => ⟨?_, ?_⟩, ?_⟩⟩
    · exact Limits.eq_cancelled_iff ended
    · exact Invocation.run_of_first_end asks ready ended first late
    · exact fun delay arrives live => Invocation.run_of_answer starts asks ready arrives live
  · intro β r l user since includeDeleted σ names after listed conforms
    exact ⟨fun how ended => Reader.run_of_late listed conforms ended,
      fun t how live ended first late => ⟨Limits.eq_cancelled_iff ended,
        Reader.run_of_comes listed conforms live (.ending ended first late)⟩,
      fun delay live arrives lasts =>
        Reader.run_of_comes listed conforms live (.answer arrives lasts)⟩

/-- Two children of one context, of which the first gets a deadline and is copied, tightened and
made a parent before its copy is cancelled: its own child is cancelled with it, the other child and
the parent are not. A look-up of columns ends accordingly. -/
theorem end_invocations_of_family :
    let as : List Act := [.background, .child 0, .child 0, .timeout 1 100, .clone 3,
      .deadline 4 50, .child 5, .cancel 3, .deadline 2 70, .advance 80]
    let look : Invocation (List String) := .columns .textData
    let σ : Session := { pool := { reachable := true }, now := 80 }
    ∃ (s : Contexts) (parent other grandchild late : Context), run? {} as = some s ∧
      s.contexts[0]? = some parent ∧ s.contexts[2]? = some other ∧
      s.contexts[6]? = some grandchild ∧ s.contexts[7]? = some late ∧
      s.isCancelled grandchild = true ∧ s.isCancelled other = false ∧
      s.isCancelled parent = false ∧ (∃ d ≤ 100, grandchild.deadline = some d) ∧
      (look.call (s.limits grandchild)).run σ =
        (.error (.failed (.cancelled "get table columns")), σ) ∧
      (look.call (s.limits late)).run σ =
        (.error (.failed (.deadlineExceeded "get table columns")), σ) := by
  intro as look σ
  let ms := makings 0 as
  let s : Contexts :=
    { tokens := [⟨none, false⟩, ⟨some 0, true⟩, ⟨some 0, false⟩, ⟨some 1, false⟩]
      contexts := [⟨0, none⟩, ⟨1, none⟩, ⟨2, none⟩, ⟨1, some 100⟩, ⟨1, some 100⟩, ⟨1, some 50⟩,
        ⟨3, some 50⟩, ⟨2, some 70⟩]
      now := 80 }
  have run : run? {} as = some s := by decide
  obtain ⟨cancelled, apart, -, -, -, -, notLater, ends, -⟩ := end_invocations 0 as s run
  have copied {i j : Nat} (link : Links Act.copied? ms i j) : Shares ms i j := .rel _ _ link
  have childOf (i : Nat) (a : Act) (made : ms[i]? = some ⟨a, 0⟩) (p : Nat)
      (h : a.parent? = some p) : Links Act.parent? ms i p := ⟨⟨a, 0⟩, made, h⟩
  have three_one : Shares ms 3 1 := copied ⟨⟨.timeout 1 100, 0⟩, rfl, rfl⟩
  have four_three : Shares ms 4 3 := copied ⟨⟨.clone 3, 0⟩, rfl, rfl⟩
  have five_four : Shares ms 5 4 := copied ⟨⟨.deadline 4 50, 0⟩, rfl, rfl⟩
  have three_below : Descends ms 3 0 :=
    .single ⟨1, 0, three_one, childOf 1 (.child 0) rfl 0 rfl, .refl 0⟩
  have six_below : Descends ms 6 3 :=
    .single ⟨6, 5, .refl 6, childOf 6 (.child 5) rfl 5 rfl, five_four.trans four_three⟩
  have siblings : Siblings ms 3 2 := ⟨1, 2, 0, 0, by decide, childOf 1 (.child 0) rfl 0 rfl,
    childOf 2 (.child 0) rfl 0 rfl, .refl 0, three_one, .refl 2⟩
  -- Only the third context was cancelled.
  have called {j : Nat} (h : .cancel j ∈ as) : j = 3 := by simpa [as] using h
  have spared {i : Nat} {c : Context} (there : s.contexts[i]? = some c)
      (unreached : ¬(Shares ms 3 i ∨ Descends ms i 3)) : s.isCancelled c = false := by
    by_contra h
    obtain ⟨j, hj, reached⟩ := (cancelled i c there).mp (by simpa using h)
    exact unreached (called hj ▸ reached)
  have grandchild : s.isCancelled ⟨3, some 50⟩ = true :=
    (cancelled 6 _ rfl).mpr ⟨3, by decide, .inr six_below⟩
  have other : s.isCancelled ⟨2, none⟩ = false :=
    spared (i := 2) rfl (apart 2 3 (.inr siblings))
  have late : s.isCancelled ⟨2, some 70⟩ = false := by rwa [isCancelled] at other
  have accepted : look.Accepted := ⟨_, rfl⟩
  have noLater : ∃ d ≤ 100, (⟨3, some 50⟩ : Context).deadline = some d := by
    obtain ⟨d, le, hd⟩ := notLater 5 6 _ _ 50 ⟨⟨.child 5, 0⟩, rfl, rfl⟩ rfl rfl rfl
    exact ⟨d, Nat.le_trans le (by decide), hd⟩
  refine ⟨s, ⟨0, none⟩, ⟨2, none⟩, ⟨3, some 50⟩, ⟨2, some 70⟩, run, rfl, rfl, rfl, rfl, grandchild,
    other, spared (i := 0) rfl (apart 0 3 (.inl three_below)), noLater,
    (ends 6 _ rfl _ look σ accepted rfl).1 grandchild, ?_⟩
  exact (ends 7 _ rfl _ look σ accepted rfl).2 70 (by decide) late rfl

end Contexts
end RecordSync
