import RecordSync.Proofs.Contexts.Histories

/-!
# The earliest deadline counts

A deadline is applied to a context when it is made, and whoever starts from its deadline has it
too. The deadline of a context is the earliest of all that were applied to it in this way, so the
order in which they came does not matter; a timeout that the clock cannot show applies none.

Key definitions: `Contexts.Earliest`, `Contexts.Timed`.
Key theorems: `Contexts.earliest_tighten`, `Contexts.timed_of_run?`, `Contexts.Earliest.unique`,
`Contexts.contexts_prefix_of_run?`, `Contexts.Timed.not_later`.
-/
namespace RecordSync
namespace Contexts

/-! ### The earliest of several times -/

/-- A limit is the earliest of some times, and there is none if there are no such times. -/
def Earliest (p : Time → Prop) : Option Time → Prop
  | some d => IsLeast {t | p t} d
  | none => ∀ t, ¬p t

section

variable {p q : Time → Prop} {d e : Option Time}

theorem Earliest.unique (hd : Earliest p d) (he : Earliest p e) : d = e := by
  cases d with
  | none =>
    cases e with
    | none => rfl
    | some e => exact absurd he.1 (hd e)
  | some d =>
    cases e with
    | none => exact absurd hd.1 (he d)
    | some e => rw [IsLeast.unique hd he]

theorem Earliest.congr (h : ∀ t, p t ↔ q t) (hd : Earliest p d) : Earliest q d := by
  rwa [← funext fun t => propext (h t)]

/-- The earlier of two limits is the earliest of both kinds of time. -/
theorem earliest_tighten (hd : Earliest p d) (he : Earliest q e) :
    Earliest (fun t => p t ∨ q t) (tighten d e) := by
  cases d with
  | none => exact he.congr fun t => (or_iff_right (hd t)).symm
  | some d =>
    cases e with
    | none => exact Earliest.congr (fun t => (or_iff_left (he t)).symm) hd
    | some e => exact IsLeast.union hd he

theorem earliest_self (d : Option Time) : Earliest (fun t => d = some t) d := by
  cases d with
  | none => exact nofun
  | some d => exact ⟨rfl, fun t ht => Nat.le_of_eq (Option.some.inj ht)⟩

end

/-! ### What a step does to contexts and clock -/

variable {s s' : Contexts} {a : Act} {i j : Nat} {c c' : Context} {now t : Time} {m : Making}
  {ms : List Making} {as : List Act}

/-- A step adds the context that it makes, or lets time pass. -/
theorem Step.contexts (step : Step s a s') : (a.makes = true ∧ s'.now = s.now ∧
      ∃ k, s'.contexts = s.contexts ++ [⟨k, s.deadlineFor a⟩]) ∨
    (a.makes = false ∧ s'.now = s.now + elapsed [a] ∧ s'.contexts = s.contexts) := by
  cases step with
  | @copy _ i k of there =>
    have makes : a.makes = true := by cases a <;> first | rfl | cases of
    exact .inl ⟨makes, rfl, k, rfl⟩
  | fresh makes => exact .inl ⟨makes, rfl, _, rfl⟩
  | cancel => exact .inr ⟨rfl, rfl, rfl⟩
  | advance => exact .inr ⟨rfl, rfl, rfl⟩

/-- A context whose deadline is inherited is there. -/
theorem Step.exists_inherited (step : Step s a s') (h : a.inherited? = some j) :
    ∃ c, s.contexts[j]? = some c := by
  have found {k : Nat} (there : s.tokenOf? j = some k) : ∃ c, s.contexts[j]? = some c := by
    obtain ⟨c, hc, -⟩ := Option.map_eq_some_iff.mp there
    exact ⟨c, hc⟩
  cases step with
  | copy of there =>
    cases a with
    | clone | timeout | deadline =>
      obtain rfl := Option.some.inj (of.symm.trans h)
      exact found there
    | withToken => cases h
    | _ => cases of
  | fresh makes own there =>
    cases a with
    | child i =>
      obtain ⟨k, hk⟩ := there j h
      exact found hk
    | background | withTimeout | withChildToken => cases h
    | cancel | advance => cases makes
    | _ => cases own
  | cancel => cases h
  | advance => cases h

/-- Contexts stay as they are. -/
theorem contexts_prefix_of_run? (h : s.run? as = some s') : s.contexts <+: s'.contexts := by
  refine run?_induction (P := fun _ s' => s.contexts <+: s'.contexts) (List.prefix_refl _) ?_
    as s' h
  intro as a s' s'' before step
  rcases step.contexts with ⟨-, -, k, made⟩ | ⟨-, -, same⟩
  · exact made ▸ before.trans (List.prefix_append _ _)
  · exact same ▸ before

theorem getElem?_of_run? (h : s.run? as = some s') (there : s.contexts[i]? = some c) :
    s'.contexts[i]? = some c := by
  obtain ⟨rest, h⟩ := contexts_prefix_of_run? h
  rw [← h, List.getElem?_append_left (List.getElem?_eq_some_iff.mp there).1, there]

/-! ### Applied deadlines -/

/-- What was applied to contexts does not change when one more is made. -/
theorem applied_append_singleton (before : ∀ {j i}, Links Act.inherited? ms j i → i < j)
    (lt : i < ms.length) : Applied (ms ++ [m]) i t ↔ Applied ms i t := by
  constructor
  · intro h
    induction h with
    | own made applied =>
      rw [List.getElem?_append_left lt] at made
      exact .own made applied
    | inherited link _ ih =>
      rcases links_append_singleton.mp link with link | ⟨rfl, -⟩
      · exact .inherited link (ih (Nat.lt_trans (before link) lt))
      · exact absurd lt (Nat.lt_irrefl _)
  · intro h
    induction h with
    | own made applied => exact .own (by rw [List.getElem?_append_left lt, made]) applied
    | inherited link _ ih => exact .inherited link.append (ih (Nat.lt_trans (before link) lt))

/-- To the last context, its own deadline was applied and those of the context that it starts
from. -/
theorem applied_last (before : ∀ {j i}, Links Act.inherited? ms j i → i < j)
    (there : ∀ j, m.act.inherited? = some j → j < ms.length) : Applied (ms ++ [m]) ms.length t ↔
      (∃ j, m.act.inherited? = some j ∧ Applied ms j t) ∨ m.act.applied? m.time = some t := by
  have last : (ms ++ [m])[ms.length]? = some m := by simp
  constructor
  · intro h
    cases h with
    | own made applied =>
      obtain rfl := Option.some.inj (last.symm.trans made)
      exact .inr applied
    | @inherited _ j _ link applied =>
      obtain ⟨m', made, from_⟩ := link
      obtain rfl := Option.some.inj (last.symm.trans made)
      exact .inl ⟨j, from_, (applied_append_singleton before (there j from_)).mp applied⟩
  · rintro (⟨j, from_, applied⟩ | applied)
    · refine .inherited ⟨m, last, from_⟩ ?_
      exact (applied_append_singleton before (there j from_)).mpr applied
    · exact .own last applied

/-- The clock is where a history has left it, and the deadline of each context is the earliest that
was applied to it. -/
structure Timed (start : Time) (as : List Act) (s : Contexts) : Prop where
  now : s.now = start + elapsed as
  length : s.contexts.length = (makings start as).length
  before : ∀ {j i}, Links Act.inherited? (makings start as) j i → i < j
  deadlines : ∀ {i c}, s.contexts[i]? = some c → Earliest (Applied (makings start as) i) c.deadline

/-- The deadline that a new context starts from is the earliest that was applied there. -/
theorem Timed.inherited {start : Time} (timed : Timed start as s)
    (there : ∀ j, a.inherited? = some j → ∃ c, s.contexts[j]? = some c) :
    Earliest (fun t => ∃ j, a.inherited? = some j ∧ Applied (makings start as) j t)
      ((a.inherited?.bind fun i => s.contexts[i]?).bind Context.deadline) := by
  cases hj : a.inherited? with
  | none => exact nofun
  | some j =>
    obtain ⟨c, hc⟩ := there j hj
    rw [Option.bind_some, hc, Option.bind_some]
    exact (timed.deadlines hc).congr fun t => by simp

theorem Timed.step {start : Time} (timed : Timed start as s) (step : Step s a s') :
    Timed start (as ++ [a]) s' := by
  rcases step.contexts with ⟨makes, now, k, made⟩ | ⟨still, now, same⟩
  · have ms : makings start (as ++ [a]) = makings start as ++ [⟨a, s.now⟩] := by
      rw [makings_append, makings_of_makes makes, timed.now]
    have there (j : Nat) (h : a.inherited? = some j) : j < (makings start as).length := by
      obtain ⟨c, hc⟩ := step.exists_inherited h
      exact timed.length ▸ (List.getElem?_eq_some_iff.mp hc).1
    have quick : elapsed [a] = 0 := by cases a <;> first | rfl | cases makes
    refine ⟨?_, ?_, fun link => ?_, fun {i c} hc => ?_⟩
    · rw [now, timed.now, elapsed_append, quick, Nat.add_zero]
    · rw [made, ms, List.length_append, List.length_append, timed.length]
      rfl
    · rw [ms] at link
      rcases links_append_singleton.mp link with link | ⟨rfl, from_⟩
      · exact timed.before link
      · exact there _ from_
    · rw [ms]
      rw [made] at hc
      rcases getElem?_append_singleton.mp hc with hc | ⟨rfl, rfl⟩
      · have lt := timed.length ▸ (List.getElem?_eq_some_iff.mp hc).1
        exact (timed.deadlines hc).congr fun t => (applied_append_singleton timed.before lt).symm
      · rw [timed.length]
        have inherited := timed.inherited (a := a) fun j h => step.exists_inherited h
        exact (earliest_tighten inherited (earliest_self (a.applied? s.now))).congr
          fun t => (applied_last timed.before there).symm
  · have ms : makings start (as ++ [a]) = makings start as := by
      rw [makings_append]
      cases a with
      | cancel | advance => exact List.append_nil _
      | _ => cases still
    refine ⟨?_, ?_, ?_, ?_⟩
    · rw [now, timed.now, elapsed_append, Nat.add_assoc]
    · rw [same, ms, timed.length]
    · rw [ms]
      exact timed.before
    · rw [ms, same]
      exact timed.deadlines

/-- **The earliest deadline counts**, after every history. -/
theorem timed_of_run? {start : Time} (h : run? { now := start } as = some s) :
    Timed start as s := by
  refine run?_induction (P := Timed start) ?_ (fun as a s s' timed step => timed.step step) as s h
  exact ⟨rfl, rfl, fun ⟨_, made, _⟩ => (nomatch made), nofun⟩

/-- Who starts from the deadline of another context has none that is later. -/
theorem Timed.not_later {start : Time} {d : Time} (timed : Timed start as s)
    (link : Links Act.inherited? (makings start as) j i) (hi : s.contexts[i]? = some c)
    (hj : s.contexts[j]? = some c') (hd : c.deadline = some d) :
    ∃ d' ≤ d, c'.deadline = some d' := by
  have least : Earliest (Applied (makings start as) i) (some d) := hd ▸ timed.deadlines hi
  have applied : Applied (makings start as) j d := .inherited link least.1
  have earliest := timed.deadlines hj
  cases hc : c'.deadline with
  | none =>
    rw [hc] at earliest
    exact absurd applied (earliest d)
  | some d' =>
    rw [hc] at earliest
    exact ⟨d', earliest.2 applied, rfl⟩

/-- A timeout that ends beyond what the clock can show makes a context like the one it is for. -/
theorem getElem?_of_long_timeout {duration : Nat} (there : s.contexts[i]? = some c)
    (long : Clock.latest < s.now + duration) (h : s.act? (.timeout i duration) = some s') :
    s'.contexts[s.contexts.length]? = some c := by
  obtain ⟨c', found, rfl⟩ := Option.map_eq_some_iff.mp h
  obtain rfl := Option.some.inj (there.symm.trans found)
  have never : s.timeoutDeadline duration = none := if_neg (Nat.not_le_of_lt long)
  simp [timeout, push, never, tighten_none]

end Contexts
end RecordSync
