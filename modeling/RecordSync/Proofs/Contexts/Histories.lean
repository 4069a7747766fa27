import Mathlib
import RecordSync.Context

/-!
# Histories of contexts

Contexts are only ever made, cancelled, and left to the passing of time. A history is the list of
what was done, with contexts by their numbers; of it we keep the makings, one for each context, with
the time at which it was made. Whose token a context shares, whose token its own descends from and
whose deadline it starts from can be read off the makings alone, without looking at any token.

Key definitions: `Contexts.Act`, `Contexts.run?`, `Contexts.makings`, `Contexts.Step`,
`Contexts.Shares`, `Contexts.Descends`, `Contexts.Siblings`, `Contexts.Applied`.
Key theorems: `Contexts.step_of_act?`, `Contexts.run?_induction`.
-/
namespace RecordSync
namespace Contexts

/-- What stands in a list to which one element was added. -/
theorem getElem?_append_singleton {α : Type} {xs : List α} {x y : α} {i : Nat} :
    (xs ++ [x])[i]? = some y ↔ xs[i]? = some y ∨ i = xs.length ∧ y = x := by
  rcases Nat.lt_trichotomy i xs.length with lt | rfl | gt
  · rw [List.getElem?_append_left lt]
    simp [Nat.ne_of_lt lt]
  · simp [eq_comm]
  · rw [List.getElem?_eq_none (by simpa using gt), List.getElem?_eq_none (Nat.le_of_lt gt)]
    simp [Nat.ne_of_gt gt]

/-! ### Acts -/

/-- Something done with contexts, which go by their numbers. -/
inductive Act where
  | background
  | withTimeout (duration : Nat)
  | clone (i : Nat)
  | child (i : Nat)
  | timeout (i : Nat) (duration : Nat)
  | deadline (i : Nat) (time : Time)
  | withToken (i : Nat)
  | withChildToken (i : Nat)
  | cancel (i : Nat)
  | advance (duration : Nat)
  deriving DecidableEq, Repr

namespace Act

/-- Whether the act makes a context. -/
def makes : Act → Bool
  | .cancel _ | .advance _ => false
  | _ => true

/-- The context whose token the new one shares. -/
def copied? : Act → Option Nat
  | .clone i | .timeout i _ | .deadline i _ | .withToken i => some i
  | _ => none

/-- The context whose token the new one's descends from. -/
def parent? : Act → Option Nat
  | .child i | .withChildToken i => some i
  | _ => none

/-- The context whose deadline the new one starts from. -/
def inherited? : Act → Option Nat
  | .clone i | .child i | .timeout i _ | .deadline i _ => some i
  | _ => none

/-- The deadline that the act applies at a time, if the clock can show it. -/
def applied? (now : Time) : Act → Option Time
  | .withTimeout duration | .timeout _ duration => Clock.after? now duration
  | .deadline _ time => some time
  | _ => none

end Act

/-- The contexts after an act; nothing if it is about a context that there is not. -/
def act? (s : Contexts) : Act → Option Contexts
  | .background => some s.background.2
  | .withTimeout duration => some (s.withTimeout duration).2
  | .clone i => s.contexts[i]?.map fun c => (s.clone c).2
  | .child i => s.contexts[i]?.map fun c => (s.child c).2
  | .timeout i duration => s.contexts[i]?.map fun c => (s.timeout c duration).2
  | .deadline i time => s.contexts[i]?.map fun c => (s.deadline c time).2
  | .withToken i => s.contexts[i]?.map fun c => (s.withToken c).2
  | .withChildToken i => s.contexts[i]?.map fun c => (s.withChildToken c).2
  | .cancel i => s.contexts[i]?.map s.cancel
  | .advance duration => some (s.advance duration)

/-- The contexts after a history. -/
def run? (s : Contexts) : List Act → Option Contexts
  | [] => some s
  | a :: as => (s.act? a).bind fun s => s.run? as

theorem run?_append (s : Contexts) (as bs : List Act) :
    s.run? (as ++ bs) = (s.run? as).bind fun s => s.run? bs := by
  induction as generalizing s with
  | nil => rfl
  | cons a as ih =>
    rw [List.cons_append, run?, run?]
    cases s.act? a with
    | none => rfl
    | some s' => exact ih s'

/-! ### One step -/

/-- The number of a context's token. -/
def tokenOf? (s : Contexts) (i : Nat) : Option Nat := s.contexts[i]?.map Context.token

/-- The token that a token descends from. -/
def parentOf? (s : Contexts) (k : Nat) : Option Nat := s.tokens[k]?.bind Token.parent

/-- The deadline of the context that an act makes. -/
def deadlineFor (s : Contexts) (a : Act) : Option Time :=
  tighten ((a.inherited?.bind fun i => s.contexts[i]?).bind Context.deadline) (a.applied? s.now)

/-- What an act may do: make a context with the token of another one, or with a token of its own,
or mark a token, or let time pass. -/
inductive Step (s : Contexts) : Act → Contexts → Prop
  | copy {a : Act} {i k : Nat} (of : a.copied? = some i) (there : s.tokenOf? i = some k) :
    Step s a (s.push ⟨k, s.deadlineFor a⟩).2
  | fresh {a : Act} (makes : a.makes = true) (own : a.copied? = none)
    (there : ∀ i, a.parent? = some i → ∃ k, s.tokenOf? i = some k) :
    Step s a (s.pushFresh (a.parent?.bind s.tokenOf?) (s.deadlineFor a)).2
  | cancel {i : Nat} {c : Context} (there : s.contexts[i]? = some c) :
    Step s (.cancel i) (s.cancel c)
  | advance (duration : Nat) : Step s (.advance duration) (s.advance duration)

theorem tighten_none (d : Option Time) : tighten d none = d := by cases d <;> rfl

variable {s s' : Contexts} {a : Act} {i j k : Nat}

theorem tokenOf?_eq_some {c : Context} (h : s.contexts[i]? = some c) :
    s.tokenOf? i = some c.token := by
  rw [tokenOf?, h]
  rfl

theorem deadlineFor_of_inherited {c : Context} (inherits : a.inherited? = some i)
    (there : s.contexts[i]? = some c) :
    s.deadlineFor a = tighten c.deadline (a.applied? s.now) := by
  rw [deadlineFor, inherits, Option.bind_some, there, Option.bind_some]

/-- **Every act is a step.** -/
theorem step_of_act? (h : s.act? a = some s') : Step s a s' := by
  -- Whoever descends from a context needs one that is there.
  have ancestor {i : Nat} {c : Context} (there : s.contexts[i]? = some c) (j : Nat)
      (h : some i = some j) : ∃ k, s.tokenOf? j = some k :=
    ⟨c.token, Option.some.inj h ▸ tokenOf?_eq_some there⟩
  cases a with
  | background =>
    obtain rfl := Option.some.inj h
    exact .fresh rfl rfl nofun
  | withTimeout duration =>
    obtain rfl := Option.some.inj h
    exact .fresh rfl rfl nofun
  | clone i =>
    obtain ⟨c, there, rfl⟩ := Option.map_eq_some_iff.mp h
    have step : Step s (.clone i) _ := .copy rfl (tokenOf?_eq_some there)
    have same : s.deadlineFor (.clone i) = c.deadline :=
      (deadlineFor_of_inherited rfl there).trans (tighten_none _)
    rwa [same] at step
  | child i =>
    obtain ⟨c, there, rfl⟩ := Option.map_eq_some_iff.mp h
    have step : Step s (.child i) _ := .fresh rfl rfl (ancestor there)
    have same : s.deadlineFor (.child i) = c.deadline :=
      (deadlineFor_of_inherited rfl there).trans (tighten_none _)
    rwa [same, Act.parent?, Option.bind_some, tokenOf?_eq_some there] at step
  | timeout i duration =>
    obtain ⟨c, there, rfl⟩ := Option.map_eq_some_iff.mp h
    have step : Step s (.timeout i duration) _ := .copy rfl (tokenOf?_eq_some there)
    rwa [deadlineFor_of_inherited rfl there] at step
  | deadline i time =>
    obtain ⟨c, there, rfl⟩ := Option.map_eq_some_iff.mp h
    have step : Step s (.deadline i time) _ := .copy rfl (tokenOf?_eq_some there)
    rwa [deadlineFor_of_inherited rfl there] at step
  | withToken i =>
    obtain ⟨c, there, rfl⟩ := Option.map_eq_some_iff.mp h
    exact .copy rfl (tokenOf?_eq_some there)
  | withChildToken i =>
    obtain ⟨c, there, rfl⟩ := Option.map_eq_some_iff.mp h
    have step : Step s (.withChildToken i) _ := .fresh rfl rfl (ancestor there)
    rwa [Act.parent?, Option.bind_some, tokenOf?_eq_some there] at step
  | cancel i =>
    obtain ⟨c, there, rfl⟩ := Option.map_eq_some_iff.mp h
    exact .cancel there
  | advance duration =>
    obtain rfl := Option.some.inj h
    exact .advance duration

/-- What holds at the start and is kept by every step holds after every history. -/
theorem run?_induction {P : List Act → Contexts → Prop} {s₀ : Contexts} (start : P [] s₀)
    (step : ∀ as a s s', P as s → Step s a s' → P (as ++ [a]) s') (as : List Act) (s : Contexts)
    (h : s₀.run? as = some s) : P as s := by
  induction as using List.reverseRecOn generalizing s with
  | nil => exact Option.some.inj h ▸ start
  | append_singleton as a ih =>
    rw [run?_append] at h
    obtain ⟨s', before, last⟩ := Option.bind_eq_some_iff.mp h
    rw [run?, Option.bind_eq_some_iff] at last
    obtain ⟨s'', acted, done⟩ := last
    obtain rfl : s'' = s := Option.some.inj done
    exact step as a s' s'' (ih s' before) (step_of_act? acted)

/-! ### Makings -/

/-- How a context was made, and when. -/
structure Making where
  act : Act
  time : Time
  deriving DecidableEq, Repr

/-- The makings of a history that starts at a time; the number of a context is the place of its
making. -/
def makings (now : Time) : List Act → List Making
  | [] => []
  | .advance duration :: as => makings (now + duration) as
  | .cancel _ :: as => makings now as
  | a :: as => ⟨a, now⟩ :: makings now as

/-- The time that passes in a history. -/
def elapsed : List Act → Nat
  | [] => 0
  | .advance duration :: as => duration + elapsed as
  | _ :: as => elapsed as

variable {now : Time} {as bs : List Act}

theorem makings_append (now : Time) (as bs : List Act) :
    makings now (as ++ bs) = makings now as ++ makings (now + elapsed as) bs := by
  induction as generalizing now with
  | nil => rfl
  | cons a as ih =>
    cases a <;> simp [makings, elapsed, ih, Nat.add_assoc]

theorem elapsed_append (as bs : List Act) : elapsed (as ++ bs) = elapsed as + elapsed bs := by
  induction as with
  | nil => exact (Nat.zero_add _).symm
  | cons a as ih => cases a <;> simp [elapsed, ih, Nat.add_assoc]

theorem makings_of_makes (h : a.makes = true) : makings now [a] = [⟨a, now⟩] := by
  cases a <;> first | rfl | cases h

/-! ### Whose token, whose deadline -/

/-- A context was made from another one in a way. -/
def Links (way : Act → Option Nat) (ms : List Making) (j i : Nat) : Prop :=
  ∃ m, ms[j]? = some m ∧ way m.act = some i

/-- Two contexts have the same token: one was copied from the other, or both from the same. -/
def Shares (ms : List Making) : Nat → Nat → Prop := Relation.EqvGen (Links Act.copied? ms)

/-- The token of a context was made as a child of the token of another one. -/
def Below (ms : List Making) (j i : Nat) : Prop :=
  ∃ j' i', Shares ms j j' ∧ Links Act.parent? ms j' i' ∧ Shares ms i' i

/-- A context descends from another one. -/
def Descends (ms : List Making) : Nat → Nat → Prop := Relation.TransGen (Below ms)

/-- Two contexts have tokens that were made, one apart from the other, as children of one token. -/
def Siblings (ms : List Making) (i j : Nat) : Prop :=
  ∃ i' j' p q, i' ≠ j' ∧ Links Act.parent? ms i' p ∧ Links Act.parent? ms j' q ∧ Shares ms p q ∧
    Shares ms i i' ∧ Shares ms j j'

/-- A deadline was applied to a context, or to one that it has its deadline from. -/
inductive Applied (ms : List Making) : Nat → Time → Prop
  | own {i : Nat} {m : Making} {t : Time} (made : ms[i]? = some m)
    (applied : m.act.applied? m.time = some t) : Applied ms i t
  | inherited {i j : Nat} {t : Time} (link : Links Act.inherited? ms i j)
    (applied : Applied ms j t) : Applied ms i t

section

variable {way : Act → Option Nat} {ms ms' : List Making} {m : Making}

theorem Links.lt (h : Links way ms j i) : j < ms.length := by
  obtain ⟨m, made, -⟩ := h
  exact (List.getElem?_eq_some_iff.mp made).1

theorem Links.append (h : Links way ms j i) : Links way (ms ++ ms') j i := by
  obtain ⟨m, made, from_⟩ := id h
  exact ⟨m, by rw [List.getElem?_append_left h.lt, made], from_⟩

theorem links_append_singleton : Links way (ms ++ [m]) j i ↔
    Links way ms j i ∨ j = ms.length ∧ way m.act = some i := by
  unfold Links
  simp only [getElem?_append_singleton, or_and_right, exists_or]
  refine or_congr_right ⟨?_, ?_⟩
  · rintro ⟨m', ⟨last, rfl⟩, from_⟩
    exact ⟨last, from_⟩
  · rintro ⟨last, from_⟩
    exact ⟨m, ⟨last, rfl⟩, from_⟩

/-- What was made from no other context in a way adds no link. -/
theorem Links.of_append_singleton (h : Links way (ms ++ [m]) j i) (apart : way m.act = none) :
    Links way ms j i := by
  rcases links_append_singleton.mp h with link | ⟨-, from_⟩
  · exact link
  · rw [apart] at from_
    cases from_

theorem Shares.refl (i : Nat) : Shares ms i i := Relation.EqvGen.refl i

theorem Shares.symm (h : Shares ms i j) : Shares ms j i := Relation.EqvGen.symm i j h

theorem Shares.trans (h : Shares ms i j) (h' : Shares ms j k) : Shares ms i k :=
  Relation.EqvGen.trans i j k h h'

theorem Shares.append (h : Shares ms i j) : Shares (ms ++ ms') i j :=
  Relation.EqvGen.mono (fun _ _ link => link.append) _ _ h

theorem Below.append (h : Below ms j i) : Below (ms ++ ms') j i := by
  obtain ⟨j', i', hj, link, hi⟩ := h
  exact ⟨j', i', hj.append, link.append, hi.append⟩

theorem Descends.append (h : Descends ms j i) : Descends (ms ++ ms') j i :=
  Relation.TransGen.mono (fun _ _ below => Below.append below) _ _ h

end

end Contexts
end RecordSync
