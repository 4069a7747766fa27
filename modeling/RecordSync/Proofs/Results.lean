import Mathlib

/-!
# Results with failures

A result that is made in steps is there exactly if every step gives its own. A list of which each
element has to give something is gone through from the front, up to the first failure.

Key definitions: `Stops`.
Key theorems: `bind_eq_ok_iff`, `map_eq_ok_iff`, `map_eq_error_iff`, `mapM_eq_ok_iff`,
`mapM_eq_error_iff`.
-/
namespace RecordSync

section

variable {α β ε : Type} {x : Except ε α} {b : β} {e : ε}

theorem bind_eq_ok_iff {f : α → Except ε β} :
    (x >>= f) = .ok b ↔ ∃ a, x = .ok a ∧ f a = .ok b := by
  cases x <;> simp [bind, Except.bind]

theorem map_eq_ok_iff {f : α → β} : x.map f = .ok b ↔ ∃ a, x = .ok a ∧ f a = b := by
  cases x <;> simp [Except.map]

theorem map_eq_error_iff {f : α → β} : x.map f = .error e ↔ x = .error e := by
  cases x <;> simp [Except.map]

end

/-! ### One failure is enough -/

section

variable {α β ε : Type} {f : α → Except ε β} {xs : List α} {ys : List β} {e : ε}

/-- An element fails, and those before it do not. -/
def Stops (f : α → Except ε β) (xs : List α) (e : ε) : Prop :=
  ∃ left x right, xs = left ++ x :: right ∧ (∀ y ∈ left, ∃ z, f y = .ok z) ∧ f x = .error e

theorem not_stops_nil : ¬Stops f [] e := by
  rintro ⟨left, x, right, h, -⟩
  simp at h

theorem stops_cons_of_error {x : α} {e' : ε} (hx : f x = .error e') :
    Stops f (x :: xs) e ↔ e' = e := by
  constructor
  · rintro ⟨_ | ⟨y, left⟩, z, right, h, good, bad⟩
    · obtain ⟨rfl, -⟩ := List.cons.inj h
      rw [hx] at bad
      exact Except.error.inj bad
    · obtain ⟨rfl, -⟩ := List.cons.inj h
      obtain ⟨z, hz⟩ := good x List.mem_cons_self
      rw [hx] at hz
      cases hz
  · rintro rfl
    exact ⟨[], x, xs, rfl, nofun, hx⟩

theorem stops_cons_of_ok {x : α} {y : β} (hx : f x = .ok y) :
    Stops f (x :: xs) e ↔ Stops f xs e := by
  constructor
  · rintro ⟨_ | ⟨x', left⟩, z, right, h, good, bad⟩
    · obtain ⟨rfl, -⟩ := List.cons.inj h
      rw [hx] at bad
      cases bad
    · obtain ⟨rfl, rfl⟩ := List.cons.inj h
      exact ⟨left, z, right, rfl, fun y hy => good y (List.mem_cons_of_mem _ hy), bad⟩
  · rintro ⟨left, z, right, rfl, good, bad⟩
    exact ⟨x :: left, z, right, rfl, List.forall_mem_cons.mpr ⟨⟨y, hx⟩, good⟩, bad⟩

/-- Steps that give the same for every element give the same list. -/
theorem mapM_congr {m : Type → Type} [Monad m] [LawfulMonad m] {f g : α → m β}
    (h : ∀ x ∈ xs, f x = g x) : xs.mapM f = xs.mapM g := by
  induction xs with
  | nil => rfl
  | cons x xs ih =>
    obtain ⟨first, more⟩ := List.forall_mem_cons.mp h
    rw [List.mapM_cons, List.mapM_cons, first, ih more]

/-- A list is gone through with success exactly when each element gives its result. -/
theorem mapM_eq_ok_iff : xs.mapM f = .ok ys ↔ List.Forall₂ (fun x y => f x = .ok y) xs ys := by
  induction xs generalizing ys with
  | nil =>
    rw [List.mapM_nil, List.forall₂_nil_left_iff]
    exact ⟨fun h => (Except.ok.inj h).symm, fun h => congrArg Except.ok h.symm⟩
  | cons x xs ih =>
    simp only [List.mapM_cons, bind_eq_ok_iff, ih, List.forall₂_cons_left_iff]
    constructor
    · rintro ⟨y, hy, zs, more, same⟩
      exact ⟨y, zs, hy, more, (Except.ok.inj same).symm⟩
    · rintro ⟨y, zs, hy, more, rfl⟩
      exact ⟨y, hy, zs, more, rfl⟩

/-- It stops with the failure of the first element that has one. -/
theorem mapM_eq_error_iff : xs.mapM f = .error e ↔ Stops f xs e := by
  induction xs with
  | nil => simp [pure, Except.pure, not_stops_nil]
  | cons x xs ih =>
    rw [List.mapM_cons]
    cases hx : f x with
    | error e' => simp [bind, Except.bind, stops_cons_of_error hx]
    | ok y =>
      rw [stops_cons_of_ok hx, ← ih]
      cases xs.mapM f <;> simp [bind, Except.bind, pure, Except.pure]

end

end RecordSync
