/-!
# Pieces between separators

A text falls into pieces between the separators in it, one piece more than there are separators;
joined by the separator the pieces are the text again.

Key definitions: `Text.split`, `Text.join`.
Key theorems: `Text.join_split`.
-/
namespace RecordSync
namespace Text

/-- The pieces between separators. -/
def split (separator : Char) : List Char → List (List Char)
  | [] => [[]]
  | c :: cs =>
    if c = separator then [] :: split separator cs
    else
      match split separator cs with
      | [] => [[c]]
      | p :: ps => (c :: p) :: ps

/-- The pieces with a separator between each two. -/
def join (separator : Char) : List (List Char) → List Char
  | [] => []
  | [p] => p
  | p :: ps => p ++ separator :: join separator ps

theorem split_ne_nil (separator : Char) (cs : List Char) : split separator cs ≠ [] := by
  cases cs with
  | nil => simp [split]
  | cons c cs => rw [split]; split <;> (try split) <;> simp

theorem join_cons (separator : Char) (p : List Char) {ps : List (List Char)} (h : ps ≠ []) :
    join separator (p :: ps) = p ++ separator :: join separator ps := by
  cases ps with
  | nil => exact absurd rfl h
  | cons q qs => rfl

theorem join_cons_cons (separator c : Char) (p : List Char) (ps : List (List Char)) :
    join separator ((c :: p) :: ps) = c :: join separator (p :: ps) := by
  cases ps <;> rfl

/-- The pieces of a text are the text when they are joined. -/
theorem join_split (separator : Char) (cs : List Char) :
    join separator (split separator cs) = cs := by
  induction cs with
  | nil => rfl
  | cons c cs ih =>
    rw [split]
    by_cases h : c = separator
    · rw [if_pos h, join_cons separator [] (split_ne_nil separator cs), ih, h]
      rfl
    · rw [if_neg h]
      cases hs : split separator cs with
      | nil => exact absurd hs (split_ne_nil separator cs)
      | cons p ps => rw [join_cons_cons, ← hs, ih]

end Text
end RecordSync
