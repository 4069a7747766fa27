/-!
# White space at the ends of a text

A text is trimmed of the characters of the Unicode property White_Space. Characters that only look
like space (U+001C to U+001F, U+180E, U+200B, U+2060, U+FEFF) do not have the property and stay.

Key definitions: `Text.isBlank`, `Text.trim`, `Text.allBlank`.
Key theorems: `Text.exists_trim`, `Text.trimChars_padded`, `Text.trim_eq_empty_iff`.
-/
namespace RecordSync
namespace Text

/-- The code points with the property White_Space, as closed ranges. -/
def blankRanges : List (Nat × Nat) :=
  [(0x09, 0x0D), (0x20, 0x20), (0x85, 0x85), (0xA0, 0xA0), (0x1680, 0x1680), (0x2000, 0x200A),
   (0x2028, 0x2029), (0x202F, 0x202F), (0x205F, 0x205F), (0x3000, 0x3000)]

/-- Whether a character has the property White_Space. -/
def isBlank (c : Char) : Bool :=
  blankRanges.any fun r => r.1 ≤ c.toNat && c.toNat ≤ r.2

/-- The characters without the blank ones at the front. -/
def trimFront (cs : List Char) : List Char := cs.dropWhile isBlank

/-- The characters without the blank ones at the back. -/
def trimBack (cs : List Char) : List Char := (cs.reverse.dropWhile isBlank).reverse

/-- The characters without the blank ones at either end. -/
def trimChars (cs : List Char) : List Char := trimBack (trimFront cs)

/-- The text without the blank characters at either end. -/
def trim (s : String) : String := String.ofList (trimChars s.toList)

/-- Whether nothing is left of the text when it is trimmed. -/
def allBlank (s : String) : Bool := s.toList.all isBlank

/-! ### What trimming removes -/

theorem exists_trimFront (cs : List Char) :
    ∃ a, cs = a ++ trimFront cs ∧ ∀ c ∈ a, isBlank c = true :=
  ⟨cs.takeWhile isBlank, List.takeWhile_append_dropWhile.symm,
    fun _ h => by simpa using List.all_eq_true.mp List.all_takeWhile _ h⟩

theorem exists_trimBack (cs : List Char) :
    ∃ b, cs = trimBack cs ++ b ∧ ∀ c ∈ b, isBlank c = true := by
  obtain ⟨a, h, hb⟩ := exists_trimFront cs.reverse
  refine ⟨a.reverse, ?_, fun c hc => hb c (List.mem_reverse.mp hc)⟩
  have := congrArg List.reverse h
  simpa [trimBack, trimFront] using this

/-- Trimming removes blank characters at the two ends and nothing else. -/
theorem exists_trim (cs : List Char) :
    ∃ a b, cs = a ++ trimChars cs ++ b ∧ (∀ c ∈ a, isBlank c = true) ∧
      ∀ c ∈ b, isBlank c = true := by
  obtain ⟨a, ha, hab⟩ := exists_trimFront cs
  obtain ⟨b, hb, hbb⟩ := exists_trimBack (trimFront cs)
  exact ⟨a, b, by rw [List.append_assoc, trimChars, ← hb, ← ha], hab, hbb⟩

theorem trimFront_of_blank {cs : List Char} (h : ∀ c ∈ cs, isBlank c = true) :
    trimFront cs = [] := by
  induction cs with
  | nil => rfl
  | cons c cs ih =>
    rw [trimFront, List.dropWhile_cons_of_pos (h c List.mem_cons_self)]
    exact ih fun x hx => h x (List.mem_cons_of_mem c hx)

/-! ### What trimming leaves -/

theorem trimFront_append {a cs : List Char} (blank : ∀ c ∈ a, isBlank c = true) :
    trimFront (a ++ cs) = trimFront cs :=
  List.dropWhile_append_of_pos blank

theorem trimBack_append {b cs : List Char} (blank : ∀ c ∈ b, isBlank c = true) :
    trimBack (cs ++ b) = trimBack cs := by
  rw [trimBack, List.reverse_append,
    List.dropWhile_append_of_pos fun c hc => blank c (List.mem_reverse.mp hc), trimBack]

theorem trimFront_eq_self {cs : List Char} (first : ∀ c ∈ cs.head?, isBlank c = false) :
    trimFront cs = cs := by
  cases cs with
  | nil => rfl
  | cons c cs => exact List.dropWhile_cons_of_neg (by simp [first c rfl])

theorem trimBack_eq_self {cs : List Char} (last : ∀ c ∈ cs.getLast?, isBlank c = false) :
    trimBack cs = cs := by
  rw [← List.head?_reverse] at last
  rw [trimBack, ← trimFront, trimFront_eq_self last, List.reverse_reverse]

/-- Blank characters at the two ends of a text make no difference to what trimming leaves. -/
theorem trimChars_padded {a b : List Char} (before : ∀ c ∈ a, isBlank c = true)
    (after : ∀ c ∈ b, isBlank c = true) (cs : List Char) :
    trimChars (a ++ cs ++ b) = trimChars cs := by
  rw [trimChars, List.append_assoc, trimFront_append before, trimFront, List.dropWhile_append]
  by_cases nothing : (cs.dropWhile isBlank).isEmpty
  · rw [if_pos nothing, ← trimFront, trimFront_of_blank after, trimChars, trimFront,
      List.isEmpty_iff.mp nothing]
  · rw [if_neg nothing, trimBack_append after, trimChars, trimFront]

/-- A text without a blank character at either end is left as it is. -/
theorem trimChars_eq_self {cs : List Char} (first : ∀ c ∈ cs.head?, isBlank c = false)
    (last : ∀ c ∈ cs.getLast?, isBlank c = false) : trimChars cs = cs := by
  rw [trimChars, trimFront_eq_self first, trimBack_eq_self last]

/-- A change of characters that keeps blank apart from not blank may be made before or after. -/
theorem trimChars_map {f : Char → Char} (kept : ∀ c, isBlank (f c) = isBlank c) (cs : List Char) :
    trimChars (cs.map f) = (trimChars cs).map f := by
  have same : isBlank ∘ f = isBlank := funext kept
  simp only [trimChars, trimFront, trimBack, List.dropWhile_map, ← List.map_reverse, same]

/-- Nothing is left of a text that is blank throughout. -/
theorem trim_eq_empty_iff {s : String} : trim s = "" ↔ allBlank s = true := by
  unfold trim allBlank
  rw [String.ofList_eq_empty_iff, List.all_eq_true]
  constructor
  · intro h
    obtain ⟨a, b, hs, ha, hb⟩ := exists_trim s.toList
    rw [h, List.append_nil] at hs
    intro c hc
    rw [hs] at hc
    exact (List.mem_append.mp hc).elim (ha c) (hb c)
  · intro h
    rw [trimChars, trimFront_of_blank h]
    rfl

end Text
end RecordSync
