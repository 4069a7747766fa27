import RecordSync.Proofs.Contexts.Histories

/-!
# Whose cancellation is whose

After every history the tokens tell what the makings tell: contexts have the same token exactly when
they share it by copies, and one token is the parent of another exactly when contexts with these
tokens were made so. A context is then cancelled exactly when `cancel` was called on a context that
shares its token or that it descends from; descendants and siblings do not matter.

Key definition: `Contexts.Tracks`.
Key theorems: `Contexts.tracks_of_run?`, `Contexts.tokenCancelled_iff`,
`Contexts.Tracks.isCancelled_iff`, `Contexts.Tracks.not_reached_of_descends`,
`Contexts.Tracks.not_reached_of_siblings`.
-/
namespace RecordSync
namespace Contexts

variable {s s' : Contexts} {a : Act} {i j k p : Nat} {c : Context} {ms : List Making} {m : Making}
  {as : List Act}

/-! ### Tokens of contexts -/

/-- A token was cancelled itself. -/
def Marked (s : Contexts) (k : Nat) : Prop := ∃ t, s.tokens[k]? = some t ∧ t.cancelled = true

/-- A new context is the only one whose token changes. -/
theorem tokenOf?_push : (s.push c).2.tokenOf? i = some k ↔
    s.tokenOf? i = some k ∨ i = s.contexts.length ∧ k = c.token := by
  unfold tokenOf? push
  simp only [Option.map_eq_some_iff, getElem?_append_singleton, or_and_right, exists_or]
  refine or_congr_right ⟨?_, ?_⟩
  · rintro ⟨c', ⟨last, rfl⟩, rfl⟩
    exact ⟨last, rfl⟩
  · rintro ⟨last, rfl⟩
    exact ⟨c, ⟨last, rfl⟩, rfl⟩

/-- A new token is the only one whose parent changes. -/
theorem parentOf?_pushFresh {parent deadline : Option Nat} :
    (s.pushFresh parent deadline).2.parentOf? k = some p ↔
      s.parentOf? k = some p ∨ k = s.tokens.length ∧ parent = some p := by
  unfold parentOf? pushFresh push
  simp only [Option.bind_eq_some_iff, getElem?_append_singleton, or_and_right, exists_or]
  refine or_congr_right ⟨?_, ?_⟩
  · rintro ⟨t, ⟨last, rfl⟩, h⟩
    exact ⟨last, h⟩
  · rintro ⟨last, h⟩
    exact ⟨_, ⟨last, rfl⟩, h⟩

theorem marked_pushFresh {parent deadline : Option Nat} :
    (s.pushFresh parent deadline).2.Marked k ↔ s.Marked k := by
  unfold Marked pushFresh push
  simp only [getElem?_append_singleton, or_and_right, exists_or]
  refine or_iff_left ?_
  rintro ⟨t, ⟨-, rfl⟩, marked⟩
  cases marked

theorem parentOf?_cancel : (s.cancel c).parentOf? k = s.parentOf? k := by
  unfold parentOf? cancel
  dsimp only
  rw [List.getElem?_modify]
  cases s.tokens[k]? with
  | none => rfl
  | some t => by_cases h : c.token = k <;> simp [h]

theorem marked_cancel (there : c.token < s.tokens.length) :
    (s.cancel c).Marked k ↔ s.Marked k ∨ k = c.token := by
  unfold Marked cancel
  dsimp only
  rw [List.getElem?_modify]
  by_cases h : c.token = k
  · subst h
    simp [List.getElem?_eq_getElem there]
  · have apart : ¬k = c.token := fun heq => h heq.symm
    simp [h, apart]

/-! ### What the makings say of tokens -/

/-- The tokens are as the makings of a history say, and the marked ones are those of the contexts
that `cancel` was called on. -/
structure Tracks (ms : List Making) (as : List Act) (s : Contexts) : Prop where
  length : s.contexts.length = ms.length
  held : ∀ {i k}, s.tokenOf? i = some k → k < s.tokens.length
  older : ∀ {k p}, s.parentOf? k = some p → p < k
  copies : ∀ {j i}, Links Act.copied? ms j i →
    ∃ k, s.tokenOf? j = some k ∧ s.tokenOf? i = some k
  shared : ∀ {i j k}, s.tokenOf? i = some k → s.tokenOf? j = some k → Shares ms i j
  children : ∀ {j i}, Links Act.parent? ms j i →
    ∃ k p, s.tokenOf? j = some k ∧ s.tokenOf? i = some p ∧ s.parentOf? k = some p
  born : ∀ {k p}, s.parentOf? k = some p →
    ∃ j i, s.tokenOf? j = some k ∧ s.tokenOf? i = some p ∧ Links Act.parent? ms j i
  single : ∀ {j j' i i' k}, Links Act.parent? ms j i → Links Act.parent? ms j' i' →
    s.tokenOf? j = some k → s.tokenOf? j' = some k → j = j'
  called : ∀ {i}, .cancel i ∈ as → ∃ k, s.tokenOf? i = some k
  marked : ∀ {k}, s.Marked k ↔ ∃ i, .cancel i ∈ as ∧ s.tokenOf? i = some k

theorem tracks_start {now : Time} : Tracks [] [] { now := now } where
  length := rfl
  held := nofun
  older := nofun
  copies := fun ⟨_, made, _⟩ => nomatch made
  shared := nofun
  children := fun ⟨_, made, _⟩ => nomatch made
  born := nofun
  single := fun ⟨_, made, _⟩ => nomatch made
  called := nofun
  marked := ⟨fun ⟨_, there, _⟩ => (nomatch there), fun ⟨_, called, _⟩ => (nomatch called)⟩

theorem cancel_mem_append_singleton (silent : ∀ j, a ≠ .cancel j) :
    .cancel i ∈ as ++ [a] ↔ .cancel i ∈ as := by
  rw [List.mem_append, List.mem_singleton, or_iff_left fun h => silent i h.symm]

namespace Tracks

variable {time : Time} {deadline parent : Option Time}

section

variable (tracks : Tracks ms as s) (silent : ∀ j, a ≠ .cancel j)
  (kept : ∀ {j k}, s.tokenOf? j = some k → s'.tokenOf? j = some k)
include tracks silent kept

theorem called_of_kept (h : .cancel i ∈ as ++ [a]) : ∃ k, s'.tokenOf? i = some k := by
  obtain ⟨k, before⟩ := tracks.called ((cancel_mem_append_singleton silent).mp h)
  exact ⟨k, kept before⟩

/-- The calls of `cancel` stay the same, and so do the tokens of the contexts they were on. -/
theorem marked_iff_of_kept :
    s.Marked k ↔ ∃ i, .cancel i ∈ as ++ [a] ∧ s'.tokenOf? i = some k := by
  simp only [tracks.marked, cancel_mem_append_singleton silent]
  refine exists_congr fun j => and_congr_right fun hc => ⟨kept, fun h => ?_⟩
  obtain ⟨k', h'⟩ := tracks.called hc
  rw [h', ← (kept h').symm.trans h]

end

/-- A copy shares the token of what it was copied from, and no token changes. -/
theorem copy (tracks : Tracks ms as s) (rootless : a.parent? = none) (of : a.copied? = some i)
    (there : s.tokenOf? i = some k) (silent : ∀ j, a ≠ .cancel j) :
    Tracks (ms ++ [⟨a, time⟩]) (as ++ [a]) (s.push ⟨k, deadline⟩).2 := by
  have kept {j k' : Nat} (h : s.tokenOf? j = some k') :
      (s.push ⟨k, deadline⟩).2.tokenOf? j = some k' := tokenOf?_push.mpr (.inl h)
  have old {j i : Nat} (link : Links Act.parent? (ms ++ [⟨a, time⟩]) j i) :
      Links Act.parent? ms j i := link.of_append_singleton rootless
  have last : Shares (ms ++ [⟨a, time⟩]) s.contexts.length i :=
    .rel _ _ (links_append_singleton.mpr (.inr ⟨tracks.length, of⟩))
  refine ⟨by simp [push, tracks.length], fun h => ?_, tracks.older, fun link => ?_,
    fun hi hj => ?_, fun link => ?_, fun hp => ?_, fun link link' hj hj' => ?_,
    tracks.called_of_kept silent kept, tracks.marked_iff_of_kept silent kept⟩
  · rcases tokenOf?_push.mp h with h | ⟨-, rfl⟩
    · exact tracks.held h
    · exact tracks.held there
  · rcases links_append_singleton.mp link with link | ⟨rfl, from_⟩
    · obtain ⟨k', hj, hi⟩ := tracks.copies link
      exact ⟨k', kept hj, kept hi⟩
    · obtain rfl := Option.some.inj (of.symm.trans from_)
      exact ⟨k, tokenOf?_push.mpr (.inr ⟨tracks.length.symm, rfl⟩), kept there⟩
  · rcases tokenOf?_push.mp hi with hi' | ⟨rfl, rfl⟩
    · rcases tokenOf?_push.mp hj with hj' | ⟨rfl, rfl⟩
      · exact (tracks.shared hi' hj').append
      · exact (tracks.shared hi' there).append.trans last.symm
    · rcases tokenOf?_push.mp hj with hj' | ⟨rfl, -⟩
      · exact last.trans (tracks.shared there hj').append
      · exact .refl _
  · obtain ⟨k', p, hj, hi, hp⟩ := tracks.children (old link)
    exact ⟨k', p, kept hj, kept hi, hp⟩
  · obtain ⟨j, i, hj, hi, link⟩ := tracks.born hp
    exact ⟨j, i, kept hj, kept hi, link.append⟩
  · obtain ⟨k', p, ht, -⟩ := tracks.children (old link)
    obtain ⟨k'', p', ht', -⟩ := tracks.children (old link')
    rw [← (kept ht).symm.trans hj, ← (kept ht').symm.trans hj'] at *
    exact tracks.single (old link) (old link') ht ht'

/-- Only the new context has the new token. -/
theorem tokenOf?_pushFresh (tracks : Tracks ms as s) :
    (s.pushFresh parent deadline).2.tokenOf? i = some k ↔
      (s.tokenOf? i = some k ∧ k < s.tokens.length) ∨ i = ms.length ∧ k = s.tokens.length := by
  rw [← tracks.length]
  exact tokenOf?_push.trans (or_congr_left ⟨fun h => ⟨h, tracks.held h⟩, And.left⟩)

/-- A token of its own is shared with no context that was there before. -/
theorem fresh (tracks : Tracks ms as s) (own : a.copied? = none)
    (there : ∀ i, a.parent? = some i → ∃ k, s.tokenOf? i = some k) (silent : ∀ j, a ≠ .cancel j) :
    Tracks (ms ++ [⟨a, time⟩]) (as ++ [a])
      (s.pushFresh (a.parent?.bind s.tokenOf?) deadline).2 := by
  set s' := (s.pushFresh (a.parent?.bind s.tokenOf?) deadline).2 with hs'
  have token {i k : Nat} : s'.tokenOf? i = some k ↔ (s.tokenOf? i = some k ∧ k < s.tokens.length) ∨
      i = ms.length ∧ k = s.tokens.length := tracks.tokenOf?_pushFresh
  have kept {i k : Nat} (h : s.tokenOf? i = some k) : s'.tokenOf? i = some k :=
    token.mpr (.inl ⟨h, tracks.held h⟩)
  have last : s'.tokenOf? ms.length = some s.tokens.length := token.mpr (.inr ⟨rfl, rfl⟩)
  have old {j i : Nat} (link : Links Act.copied? (ms ++ [⟨a, time⟩]) j i) :
      Links Act.copied? ms j i := link.of_append_singleton own
  -- The token of a context that was there before is not the new one.
  have apart {j i k : Nat} (link : Links Act.parent? ms j i) (hj : s'.tokenOf? j = some k) :
      s.tokenOf? j = some k ∧ k < s.tokens.length :=
    (token.mp hj).resolve_right fun new => Nat.ne_of_lt link.lt new.1
  refine ⟨by simp [hs', pushFresh, push, tracks.length], fun h => ?_, fun hp => ?_,
    fun link => ?_, fun hi hj => ?_, fun link => ?_, fun hp => ?_,
    fun link link' hj hj' => ?_, tracks.called_of_kept silent kept,
    marked_pushFresh.trans (tracks.marked_iff_of_kept silent kept)⟩
  · have grown : s'.tokens.length = s.tokens.length + 1 := by simp [hs', pushFresh, push]
    rw [grown]
    rcases token.mp h with ⟨-, small⟩ | ⟨-, rfl⟩
    · exact Nat.lt_succ_of_lt small
    · exact Nat.lt_succ_self _
  · rcases parentOf?_pushFresh.mp hp with before | ⟨rfl, parent⟩
    · exact tracks.older before
    · obtain ⟨i, -, hi⟩ := Option.bind_eq_some_iff.mp parent
      exact tracks.held hi
  · obtain ⟨k, hj, hi⟩ := tracks.copies (old link)
    exact ⟨k, kept hj, kept hi⟩
  · rcases token.mp hi with ⟨hi', small⟩ | ⟨rfl, rfl⟩
    · rcases token.mp hj with ⟨hj', -⟩ | ⟨-, rfl⟩
      · exact (tracks.shared hi' hj').append
      · exact absurd small (Nat.lt_irrefl _)
    · rcases token.mp hj with ⟨-, small⟩ | ⟨rfl, -⟩
      · exact absurd small (Nat.lt_irrefl _)
      · exact .refl _
  · rcases links_append_singleton.mp link with link | ⟨rfl, from_⟩
    · obtain ⟨k, p, hj, hi, hp⟩ := tracks.children link
      exact ⟨k, p, kept hj, kept hi, parentOf?_pushFresh.mpr (.inl hp)⟩
    · obtain ⟨p, hi⟩ := there _ from_
      refine ⟨_, p, last, kept hi, parentOf?_pushFresh.mpr (.inr ⟨rfl, ?_⟩)⟩
      rw [show a.parent? = _ from from_, Option.bind_some, hi]
  · rcases parentOf?_pushFresh.mp hp with before | ⟨rfl, parent⟩
    · obtain ⟨j, i, hj, hi, link⟩ := tracks.born before
      exact ⟨j, i, kept hj, kept hi, link.append⟩
    · obtain ⟨i, from_, hi⟩ := Option.bind_eq_some_iff.mp parent
      exact ⟨_, i, last, kept hi, links_append_singleton.mpr (.inr ⟨rfl, from_⟩)⟩
  · rcases links_append_singleton.mp link with link | ⟨rfl, -⟩
    · obtain ⟨hj, small⟩ := apart link hj
      rcases links_append_singleton.mp link' with link' | ⟨rfl, -⟩
      · exact tracks.single link link' hj (apart link' hj').1
      · obtain rfl := Option.some.inj (last.symm.trans hj')
        exact absurd small (Nat.lt_irrefl _)
    · rcases links_append_singleton.mp link' with link' | ⟨rfl, -⟩
      · obtain rfl := Option.some.inj (last.symm.trans hj)
        exact absurd (apart link' hj').2 (Nat.lt_irrefl _)
      · rfl

/-- A call of `cancel` marks the token of the context that it is called on. -/
theorem cancel (tracks : Tracks ms as s) (there : s.contexts[i]? = some c) :
    Tracks ms (as ++ [.cancel i]) (s.cancel c) where
  length := tracks.length
  held h := by
    have same : (s.cancel c).tokens.length = s.tokens.length := by simp [Contexts.cancel]
    exact same ▸ tracks.held h
  older hp := tracks.older (parentOf?_cancel ▸ hp)
  copies := tracks.copies
  shared := tracks.shared
  children link := by
    obtain ⟨k, p, hj, hi, hp⟩ := tracks.children link
    exact ⟨k, p, hj, hi, parentOf?_cancel.trans hp⟩
  born hp := tracks.born (parentOf?_cancel ▸ hp)
  single := tracks.single
  called hc := by
    rcases List.mem_append.mp hc with hc | hc
    · exact tracks.called hc
    · obtain rfl := Act.cancel.inj (List.mem_singleton.mp hc)
      exact ⟨c.token, tokenOf?_eq_some there⟩
  marked := by
    intro k
    have token : s.tokenOf? i = some c.token := tokenOf?_eq_some there
    rw [marked_cancel (tracks.held token), tracks.marked]
    constructor
    · rintro (⟨j, called, hj⟩ | rfl)
      · exact ⟨j, List.mem_append_left _ called, hj⟩
      · exact ⟨i, List.mem_append_right _ List.mem_cons_self, token⟩
    · rintro ⟨j, called, hj⟩
      rcases List.mem_append.mp called with called | called
      · exact .inl ⟨j, called, hj⟩
      · obtain rfl := Act.cancel.inj (List.mem_singleton.mp called)
        exact .inr (Option.some.inj (hj.symm.trans token))

theorem advance {duration : Nat} (tracks : Tracks ms as s) :
    Tracks ms (as ++ [.advance duration]) (s.advance duration) := by
  have called {i : Nat} : .cancel i ∈ as ++ [.advance duration] ↔ .cancel i ∈ as :=
    cancel_mem_append_singleton nofun
  refine ⟨tracks.length, tracks.held, tracks.older, tracks.copies, tracks.shared, tracks.children,
    tracks.born, tracks.single, fun hc => tracks.called (called.mp hc), ?_⟩
  intro k
  simp only [called]
  exact tracks.marked

end Tracks

/-- **The makings say whose token is whose**, after every history. -/
theorem tracks_of_run? {now : Time} (h : run? { now := now } as = some s) :
    Tracks (makings now as) as s := by
  refine run?_induction (P := fun as s => Tracks (makings now as) as s) tracks_start ?_ as s h
  intro as a s s' tracks step
  rw [makings_append]
  cases step with
  | @copy _ i k of there =>
    cases a with
    | clone | timeout | deadline | withToken => exact tracks.copy rfl of there nofun
    | _ => cases of
  | fresh makes own there =>
    cases a with
    | background | withTimeout | child | withChildToken => exact tracks.fresh own there nofun
    | cancel | advance => cases makes
    | _ => cases own
  | cancel there =>
    rw [makings, makings, List.append_nil]
    exact tracks.cancel there
  | advance duration =>
    rw [makings, makings, List.append_nil]
    exact tracks.advance

/-! ### Who shares, who descends -/

/-- A token descends from another one. -/
def TokenDescends (s : Contexts) : Nat → Nat → Prop :=
  Relation.TransGen fun k p => s.parentOf? k = some p

namespace Tracks

/-- Contexts that share a token are all there, or none of them is. -/
theorem tokenOf?_eq_of_shares (tracks : Tracks ms as s) (h : Shares ms i j) :
    s.tokenOf? i = s.tokenOf? j := by
  induction h with
  | rel i j link =>
    obtain ⟨k, hi, hj⟩ := tracks.copies link
    rw [hi, hj]
  | refl i => rfl
  | symm i j _ ih => exact ih.symm
  | trans i j k _ _ ih ih' => exact ih.trans ih'

theorem below_iff (tracks : Tracks ms as s) : Below ms j i ↔
    ∃ k p, s.tokenOf? j = some k ∧ s.tokenOf? i = some p ∧ s.parentOf? k = some p := by
  constructor
  · rintro ⟨j', i', hj, link, hi⟩
    obtain ⟨k, p, hk, hp, parent⟩ := tracks.children link
    exact ⟨k, p, (tracks.tokenOf?_eq_of_shares hj).trans hk,
      (tracks.tokenOf?_eq_of_shares hi).symm.trans hp, parent⟩
  · rintro ⟨k, p, hk, hp, parent⟩
    obtain ⟨j', i', hj, hi, link⟩ := tracks.born parent
    exact ⟨j', i', tracks.shared hk hj, link, tracks.shared hi hp⟩

/-- A context descends from another one exactly when its token does. -/
theorem descends_iff (tracks : Tracks ms as s) : Descends ms j i ↔
    ∃ k p, s.tokenOf? j = some k ∧ s.tokenOf? i = some p ∧ s.TokenDescends k p := by
  constructor
  · intro h
    induction h with
    | single below =>
      obtain ⟨k, p, hk, hp, parent⟩ := tracks.below_iff.mp below
      exact ⟨k, p, hk, hp, .single parent⟩
    | tail _ below ih =>
      obtain ⟨k, p, hk, hp, up⟩ := ih
      obtain ⟨p', q, hp', hq, parent⟩ := tracks.below_iff.mp below
      obtain rfl := Option.some.inj (hp.symm.trans hp')
      exact ⟨k, q, hk, hq, up.tail parent⟩
  · rintro ⟨k, p, hk, hp, up⟩
    induction up generalizing i with
    | single parent => exact .single (tracks.below_iff.mpr ⟨k, _, hk, hp, parent⟩)
    | tail _ parent ih =>
      obtain ⟨j', -, hj', -⟩ := tracks.born parent
      exact (ih hj').tail (tracks.below_iff.mpr ⟨_, _, hj', hp, parent⟩)

theorem lt_of_tokenDescends (tracks : Tracks ms as s) (h : s.TokenDescends k p) : p < k := by
  induction h with
  | single parent => exact tracks.older parent
  | tail _ parent ih => exact Nat.lt_trans (tracks.older parent) ih

end Tracks

/-! ### Cancelled contexts -/

/-- A token is cancelled exactly when it was, or one that it descends from. -/
theorem tokenCancelled_iff (older : ∀ {k p}, s.parentOf? k = some p → p < k) :
    tokenCancelled s.tokens k = true ↔
      ∃ p, (p = k ∨ s.TokenDescends k p) ∧ s.Marked p := by
  induction k using Nat.strongRecOn with
  | ind k ih =>
    rw [tokenCancelled]
    cases ht : s.tokens[k]? with
    | none =>
      have orphan (p : Nat) : ¬s.TokenDescends k p := fun h => by
        rcases Relation.TransGen.head'_iff.mp h with ⟨q, parent, -⟩
        simp [parentOf?, ht] at parent
      simp [orphan, Marked, ht]
    | some t =>
      have parent : s.parentOf? k = t.parent := by rw [parentOf?, ht, Option.bind_some]
      have self : s.Marked k ↔ t.cancelled = true := by simp [Marked, ht]
      have up (p : Nat) : s.TokenDescends k p ↔
          ∃ q, t.parent = some q ∧ (p = q ∨ s.TokenDescends q p) := by
        unfold TokenDescends
        rw [Relation.TransGen.head'_iff, parent]
        simp only [Relation.reflTransGen_iff_eq_or_transGen]
      simp only [up, or_and_right, exists_or, exists_eq_left, self, Bool.or_eq_true]
      refine or_congr_right ?_
      cases hp : t.parent with
      | none => simp
      | some q =>
        have lt : q < k := older (parent.trans hp)
        simp only [lt, ↓reduceIte, Option.some.injEq, exists_eq_left', ih q lt, or_and_right,
          exists_or, exists_eq_left]

namespace Tracks

/-- **A context is cancelled exactly when `cancel` was called on a context that shares its token or
that it descends from.** -/
theorem isCancelled_iff (tracks : Tracks ms as s) (there : s.contexts[i]? = some c) :
    s.isCancelled c = true ↔ ∃ j, .cancel j ∈ as ∧ (Shares ms j i ∨ Descends ms i j) := by
  have token : s.tokenOf? i = some c.token := tokenOf?_eq_some there
  rw [isCancelled, tokenCancelled_iff tracks.older]
  constructor
  · rintro ⟨p, reached, marked⟩
    obtain ⟨j, called, hj⟩ := tracks.marked.mp marked
    refine ⟨j, called, ?_⟩
    rcases reached with rfl | up
    · exact .inl (tracks.shared hj token)
    · exact .inr (tracks.descends_iff.mpr ⟨_, p, token, hj, up⟩)
  · rintro ⟨j, called, shares | descends⟩
    · have hj := (tracks.tokenOf?_eq_of_shares shares).trans token
      exact ⟨c.token, .inl rfl, tracks.marked.mpr ⟨j, called, hj⟩⟩
    · obtain ⟨k, p, hi, hj, up⟩ := tracks.descends_iff.mp descends
      obtain rfl := Option.some.inj (token.symm.trans hi)
      exact ⟨p, .inr up, tracks.marked.mpr ⟨j, called, hj⟩⟩

/-- A context neither shares its token with a descendant nor descends from it. -/
theorem not_reached_of_descends (tracks : Tracks ms as s) (h : Descends ms j i) :
    ¬(Shares ms j i ∨ Descends ms i j) := by
  obtain ⟨k, p, hj, hi, up⟩ := tracks.descends_iff.mp h
  have lt := tracks.lt_of_tokenDescends up
  rintro (shares | descends)
  · have same := tracks.tokenOf?_eq_of_shares shares
    rw [hj, hi] at same
    exact absurd (Option.some.inj same) (Nat.ne_of_gt lt)
  · obtain ⟨p', k', hi', hj', up'⟩ := tracks.descends_iff.mp descends
    obtain rfl := Option.some.inj (hi.symm.trans hi')
    obtain rfl := Option.some.inj (hj.symm.trans hj')
    exact absurd (tracks.lt_of_tokenDescends up') (Nat.lt_asymm lt)

/-- A context neither shares its token with a sibling nor descends from it. -/
theorem not_reached_of_siblings (tracks : Tracks ms as s) (h : Siblings ms j i) :
    ¬(Shares ms j i ∨ Descends ms i j) := by
  obtain ⟨j', i', q, p, apart, hj', hi', same, shareJ, shareI⟩ := h
  obtain ⟨k, tq, tokenJ, tokenQ, parentJ⟩ := tracks.children hj'
  obtain ⟨k', tp, tokenI, tokenP, parentI⟩ := tracks.children hi'
  -- Both tokens have one parent, which is older than either.
  obtain rfl : tq = tp :=
    Option.some.inj (tokenQ.symm.trans ((tracks.tokenOf?_eq_of_shares same).trans tokenP))
  have atJ := (tracks.tokenOf?_eq_of_shares shareJ).trans tokenJ
  have atI := (tracks.tokenOf?_eq_of_shares shareI).trans tokenI
  rintro (shares | descends)
  · have one := tracks.tokenOf?_eq_of_shares shares
    rw [atJ, atI] at one
    exact apart (tracks.single hj' hi' tokenJ (Option.some.inj one ▸ tokenI))
  · obtain ⟨m, m', hm, hm', up⟩ := tracks.descends_iff.mp descends
    obtain rfl := Option.some.inj (atI.symm.trans hm)
    obtain rfl := Option.some.inj (atJ.symm.trans hm')
    obtain ⟨r, parent, rest⟩ := Relation.TransGen.head'_iff.mp up
    obtain rfl := Option.some.inj (parentI.symm.trans parent)
    have older := tracks.older parentJ
    rcases Relation.reflTransGen_iff_eq_or_transGen.mp rest with rfl | more
    · exact absurd older (Nat.lt_irrefl _)
    · exact absurd (tracks.lt_of_tokenDescends more) (Nat.lt_asymm older)

/-- Who was reached by a cancellation stays so in a longer history. -/
theorem isCancelled_of_append {ms' : List Making} {bs : List Act} (tracks : Tracks ms as s)
    (tracks' : Tracks (ms ++ ms') (as ++ bs) s') (there : s.contexts[i]? = some c)
    (there' : s'.contexts[i]? = some c) (h : s.isCancelled c = true) : s'.isCancelled c = true := by
  obtain ⟨j, called, reached⟩ := (tracks.isCancelled_iff there).mp h
  refine (tracks'.isCancelled_iff there').mpr ⟨j, List.mem_append_left _ called, ?_⟩
  exact reached.imp Shares.append Descends.append

end Tracks

end Contexts
end RecordSync
