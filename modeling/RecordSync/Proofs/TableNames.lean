import Mathlib
import RecordSync.Table

/-!
# Names of tables as they are given

A table may be named with white space around its name and with the ASCII letters of the name in any
case. White space is what Unicode counts as such, and no other letters have a case here: neither a
zero-width space nor a letter that only folds to one of the name makes a difference that is
overlooked. The four names stay apart, so a text names one table at most; a text that names none is
refused as it was given.

Key definitions: `Text.whiteSpace`, `Text.SameLetter`, `Text.Recased`, `Table.Named`.
Key theorems: `Text.toLower_eq_toLower_iff`, `Table.parse_eq_ok_iff`, `Table.accepts_padded_names`.
-/
namespace RecordSync
namespace Text

/-! ### White space -/

/-- The code points with the property White_Space. -/
def whiteSpace : List Nat :=
  [0x09, 0x0A, 0x0B, 0x0C, 0x0D, 0x20, 0x85, 0xA0, 0x1680, 0x2000, 0x2001, 0x2002, 0x2003, 0x2004,
    0x2005, 0x2006, 0x2007, 0x2008, 0x2009, 0x200A, 0x2028, 0x2029, 0x202F, 0x205F, 0x3000]

theorem isBlank_iff {c : Char} : isBlank c = true ↔ c.toNat ∈ whiteSpace := by
  simp [isBlank, blankRanges, whiteSpace]
  omega

/-- Nothing but white space. -/
def WhiteSpace (cs : List Char) : Prop := ∀ c ∈ cs, c.toNat ∈ whiteSpace

theorem WhiteSpace.blank {cs : List Char} (h : WhiteSpace cs) : ∀ c ∈ cs, isBlank c = true :=
  fun c hc => isBlank_iff.mpr (h c hc)

/-! ### Letters in another case -/

/-- A character is another one, or the other case of it if that is an ASCII letter. -/
def SameLetter (c d : Char) : Prop :=
  c = d ∨ ∃ k < 26, (c.toNat = 0x41 + k ∧ d.toNat = 0x61 + k) ∨
    (c.toNat = 0x61 + k ∧ d.toNat = 0x41 + k)

/-- A text is another one with the ASCII letters in any case. -/
def Recased (cs ds : List Char) : Prop := List.Forall₂ SameLetter cs ds

variable {c d : Char} {cs ds : List Char}

theorem toNat_toLower (c : Char) :
    c.toLower.toNat = if 0x41 ≤ c.toNat ∧ c.toNat ≤ 0x5A then c.toNat + 0x20 else c.toNat := by
  have upper : (c.val ≥ 'A'.val ∧ c.val ≤ 'Z'.val) ↔ 0x41 ≤ c.toNat ∧ c.toNat ≤ 0x5A := Iff.rfl
  unfold Char.toLower
  by_cases h : c.val ≥ 'A'.val ∧ c.val ≤ 'Z'.val
  · rw [dif_pos h, if_pos (upper.mp h)]
    have le : c.val.toNat ≤ 0x5A := (upper.mp h).2
    have small : c.val.toNat + 0x20 < 2 ^ 32 := by omega
    show (c.val + ('a'.val - 'A'.val)).toNat = c.val.toNat + 0x20
    rw [UInt32.toNat_add]
    exact Nat.mod_eq_of_lt small
  · rw [dif_neg h, if_neg fun h' => h (upper.mpr h')]

theorem toLower_eq_toLower_iff : c.toLower = d.toLower ↔ SameLetter c d := by
  rw [← Char.toNat_inj, toNat_toLower, toNat_toLower]
  constructor
  · intro same
    split_ifs at same with upper upper' upper'
    · exact .inl (Char.toNat_inj.mp (by omega))
    · exact .inr ⟨c.toNat - 0x41, by omega, .inl (by omega)⟩
    · exact .inr ⟨d.toNat - 0x41, by omega, .inr (by omega)⟩
    · exact .inl (Char.toNat_inj.mp same)
  · rintro (rfl | ⟨k, lt, ⟨hc, hd⟩ | ⟨hc, hd⟩⟩)
    · rfl
    · rw [hc, hd, if_pos (by omega), if_neg (by omega)]
      omega
    · rw [hc, hd, if_neg (by omega), if_pos (by omega)]
      omega

theorem recased_iff : Recased cs ds ↔ cs.map Char.toLower = ds.map Char.toLower := by
  rw [← List.forall₂_eq_eq_eq, List.forall₂_map_left_iff, List.forall₂_map_right_iff, Recased]
  simp only [toLower_eq_toLower_iff]

/-- White space is no letter, and no letter is white space in another case. -/
theorem isBlank_toLower (c : Char) : isBlank c.toLower = isBlank c := by
  rw [Bool.eq_iff_iff, isBlank_iff, isBlank_iff, toNat_toLower]
  split
  · simp [whiteSpace]
    omega
  · rfl

/-- Text in another case is trimmed to trimmed text in another case. -/
theorem Recased.trimChars (h : Recased cs ds) : Recased (trimChars cs) (trimChars ds) := by
  rw [recased_iff] at h ⊢
  rw [← trimChars_map isBlank_toLower, ← trimChars_map isBlank_toLower, h]

end Text

namespace Table

open Text

variable {s : String} {t t' : Table} {e : ValidationError}

/-- The text is the name of the table, with its ASCII letters in any case, between white space. -/
def Named (s : String) (t : Table) : Prop :=
  ∃ a w b, s.toList = a ++ w ++ b ∧ WhiteSpace a ∧ Recased t.name.toList w ∧ WhiteSpace b

theorem eq_of_recased {w : List Char} (h : Recased t.name.toList w)
    (h' : Recased t'.name.toList w) : t = t' := by
  rw [recased_iff] at h h'
  have same := h.trans h'.symm
  revert same
  cases t <;> cases t' <;> decide

/-- A name is made of ASCII letters, in whatever case. -/
theorem letter_of_recased {w : List Char} (h : Recased t.name.toList w) {c : Char} (hc : c ∈ w) :
    0x61 ≤ c.toLower.toNat ∧ c.toLower.toNat ≤ 0x7A := by
  have letters : (t.name.toList.map Char.toLower).all Char.isLower = true := by
    cases t <;> decide
  rw [recased_iff.mp h, List.all_eq_true] at letters
  have letter := letters _ (List.mem_map_of_mem hc)
  simpa [Char.isLower, UInt32.le_iff_toNat_le] using letter

/-- No white space is trimmed from a name. -/
theorem trimChars_of_recased {w : List Char} (h : Recased t.name.toList w) : trimChars w = w := by
  have solid {c : Char} (hc : c ∈ w) : isBlank c = false := by
    have letter := letter_of_recased h hc
    rw [← isBlank_toLower, Bool.eq_false_iff, ne_eq, isBlank_iff]
    simp [whiteSpace]
    omega
  exact trimChars_eq_self (fun c hc => solid (List.mem_of_mem_head? hc))
    (fun c hc => solid (List.mem_of_mem_getLast? hc))

/-- What is left of a text when it is trimmed decides which table it names. -/
theorem named_iff : Named s t ↔ Recased t.name.toList (trimChars s.toList) := by
  constructor
  · rintro ⟨a, w, b, split, before, name, after⟩
    rwa [split, trimChars_padded before.blank after.blank, trimChars_of_recased name]
  · intro name
    obtain ⟨a, b, split, before, after⟩ := exists_trim s.toList
    exact ⟨a, _, b, split, fun c hc => isBlank_iff.mp (before c hc), name,
      fun c hc => isBlank_iff.mp (after c hc)⟩

theorem Named.unique (h : Named s t) (h' : Named s t') : t = t' :=
  eq_of_recased (named_iff.mp h) (named_iff.mp h')

theorem mem_all (t : Table) : t ∈ all := by cases t <;> decide

theorem parse_eq_ok_iff : parse s = .ok t ↔ Named s t := by
  have names (t : Table) : sameLetters t.name (trim s) = true ↔ Named s t := by
    rw [named_iff, recased_iff, sameLetters, beq_iff_eq, trim, String.toList_ofList]
  unfold parse
  cases found : all.find? fun t => sameLetters t.name (trim s) with
  | some t' =>
    have named := List.find?_some found
    rw [names] at named
    simp only [Except.ok.injEq]
    exact ⟨fun h => h ▸ named, named.unique⟩
  | none =>
    have unnamed := List.find?_eq_none.mp found t (mem_all t)
    rw [names] at unnamed
    simp only [reduceCtorEq, unnamed]

theorem parse_eq_error_iff : parse s = .error e ↔ (∀ t, ¬Named s t) ∧ e = .unknownTable s := by
  simp only [← parse_eq_ok_iff]
  unfold parse
  split <;> simp [eq_comm]

/-- White space around a text and the case of its ASCII letters make no difference. -/
theorem named_padded_iff {a r b : List Char} (before : WhiteSpace a) (recased : Recased s.toList r)
    (after : WhiteSpace b) : Named (String.ofList (a ++ r ++ b)) t ↔ Named s t := by
  have trimmed := recased_iff.mp recased.trimChars
  rw [named_iff, named_iff, String.toList_ofList, trimChars_padded before.blank after.blank,
    recased_iff, recased_iff, trimmed]

theorem ascii_of_recased {w : List Char} (h : Recased t.name.toList w) {c : Char} (hc : c ∈ w) :
    c.toNat < 0x80 := by
  have letter := letter_of_recased h hc
  rw [toNat_toLower] at letter
  split at letter <;> omega

/-- **Padded names in any case are accepted, and nothing else.** A text is read as a table exactly
if it is that table's name, with its ASCII letters in any case, between white space; no text names
two tables, and one that names none is refused as it stands. So neither white space around a text
nor the case of its ASCII letters makes a difference, both names of a table are read as that table,
and what is accepted is ASCII once it is trimmed. -/
theorem accepts_padded_names (s : String) :
    (∀ t, parse s = .ok t ↔ Named s t) ∧
    (∀ t t', Named s t → Named s t' → t = t') ∧
    (∀ e, parse s = .error e ↔ (∀ t, ¬Named s t) ∧ e = .unknownTable s) ∧
    (∀ a r b, WhiteSpace a → Recased s.toList r → WhiteSpace b →
      ∀ t, parse (String.ofList (a ++ r ++ b)) = .ok t ↔ parse s = .ok t) ∧
    (∀ t : Table, parse t.name = .ok t ∧ parse t.catalogName = .ok t) ∧
    ∀ t, parse s = .ok t → ∀ c ∈ (trim s).toList, c.toNat < 0x80 := by
  have itself (t : Table) : Named t.name t := by
    rw [named_iff, trimChars_of_recased (recased_iff.mpr rfl), recased_iff]
  refine ⟨fun t => parse_eq_ok_iff, fun t t' => Named.unique, fun e => parse_eq_error_iff, ?_,
    fun t => ⟨parse_eq_ok_iff.mpr (itself t), ?_⟩, fun t accepted c hc => ?_⟩
  · intro a r b before recased after t
    rw [parse_eq_ok_iff, parse_eq_ok_iff, named_padded_iff before recased after]
  · -- The catalog's name of a table is its name in lower case, without padding.
    have lower : Recased t.name.toList (t.name.toList.map Char.toLower) := by
      simp [recased_iff, Function.comp_def]
    have blank : WhiteSpace [] := List.forall_mem_nil _
    have padded := (named_padded_iff blank lower blank).mpr (itself t)
    rw [List.nil_append, List.append_nil] at padded
    exact parse_eq_ok_iff.mpr padded
  · rw [trim, String.toList_ofList] at hc
    exact ascii_of_recased (named_iff.mp (parse_eq_ok_iff.mp accepted)) hc

/-- An ideographic space and a next-line character around a name are left aside; a zero-width space
is not, nor is a long s in the place of an s. -/
theorem accepts_padded_names_of_ideographic_space :
    parse "\u3000cREDENTIALs\u0085" = .ok .credentials ∧
    (∀ c ∈ (trim "\u3000cREDENTIALs\u0085").toList, c.toNat < 0x80) ∧
    parse "Credentials\u200b" = .error (.unknownTable "Credentials\u200b") ∧
    parse " Credential\u017f" = .error (.unknownTable " Credential\u017f") ∧
    ¬Named " Credential\u017f" .credentials := by
  have recased : Recased Table.credentials.name.toList "cREDENTIALs".toList :=
    recased_iff.mpr (by decide)
  obtain ⟨-, -, -, padded, -⟩ := accepts_padded_names Table.credentials.name
  have before : WhiteSpace ['\u3000'] := by simp [WhiteSpace, whiteSpace]
  have after : WhiteSpace ['\u0085'] := by simp [WhiteSpace, whiteSpace]
  have accepted := (padded _ _ _ before recased after .credentials).mpr (by decide)
  obtain ⟨-, -, -, -, -, ascii⟩ := accepts_padded_names "\u3000cREDENTIALs\u0085"
  obtain ⟨-, -, refused, -⟩ := accepts_padded_names " Credential\u017f"
  have folded : parse " Credential\u017f" = .error (.unknownTable " Credential\u017f") := by decide
  exact ⟨accepted, ascii _ accepted, by decide, folded, ((refused _).mp folded).1 _⟩

end Table
end RecordSync
