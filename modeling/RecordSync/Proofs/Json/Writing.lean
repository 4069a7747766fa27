import RecordSync.Json.Printer
import RecordSync.Proofs.Digits
import RecordSync.Proofs.Json.Grammar

/-!
# What is written is JSON

Both ways to write a value, without space and spread over lines, give a text of the grammar that
stands for the value, as long as its numbers are spelled as numbers. Every text can be a string:
each character is spelled as it is escaped.

Key definitions: `Json.Proper`.
Key theorems: `Json.Spelled.escaped`, `Json.numeral_write`, `Json.Proper.spells_compact`,
`Json.Proper.spells_pretty`.
-/
namespace RecordSync
namespace Json

/-! ### Strings are written -/

theorem hexDigit_hexDigit {d : Nat} (h : d < 16) : HexDigit (hexDigit d) d := by
  have all : ∀ e ∈ List.range 16, "0123456789abcdef".toList[e]? = some (hexDigit e) := by decide
  exact .inl (all d (List.mem_range.mpr h))

theorem fourHex_control {c : Char} (h : c.toNat < 0x20) :
    FourHex '0' '0' (hexDigit (c.toNat / 16)) (hexDigit (c.toNat % 16)) c.toNat :=
  ⟨0, 0, c.toNat / 16, c.toNat % 16, .inl rfl, .inl rfl, hexDigit_hexDigit (by omega),
    hexDigit_hexDigit (by omega), by omega⟩

/-- A character is spelled as it is escaped. -/
theorem Spelled.escaped {cs s : List Char} (more : Spelled cs s) (c : Char) :
    Spelled (Json.escaped c ++ cs) (c :: s) := by
  unfold Json.escaped
  split_ifs with h₁ h₂ h₃ h₄ h₅ h₆ h₇ control
  · subst h₁
    exact .letter (by decide) more
  · subst h₂
    exact .letter (by decide) more
  · subst h₃
    exact .letter (by decide) more
  · subst h₄
    exact .letter (by decide) more
  · subst h₅
    exact .letter (by decide) more
  · subst h₆
    exact .letter (by decide) more
  · subst h₇
    exact .letter (by decide) more
  · exact .unit (fourHex_control control) more
  · exact .plain (Nat.le_of_not_lt control) h₁ h₂ more

theorem spelled_flatMap : ∀ s : List Char, Spelled (s.flatMap escaped) s
  | [] => .nil
  | c :: s => (spelled_flatMap s).escaped c

theorem spells_quoted (s : String) : Spells (.value (.str s)) (quoted s) := by
  have h := Spells.string (spelled_flatMap s.toList)
  rwa [String.ofList_toList] at h

/-! ### Numbers are written -/

theorem whole_digits (n : Nat) : Whole (Decimal.digits n) n where
  value := Decimal.value?_digits n
  short := by
    by_cases h : n = 0
    · subst h
      exact .inl rfl
    · exact .inr (Decimal.head?_digits h)

theorem numeral_write (n : Int) : Numeral (Decimal.write n).toList (.int n) := by
  cases n with
  | ofNat n =>
    rw [Decimal.write, Decimal.writeNat, String.toList_ofList]
    exact .int (whole_digits n)
  | negSucc n =>
    rw [Decimal.write, String.toList_ofList]
    exact .negative (whole_digits (n + 1)) (Nat.succ_ne_zero n)

/-! ### Values are written -/

/-- A value whose numbers are all spelled as numbers. -/
inductive Proper : Json → Prop
  | null : Proper .null
  | bool (b : Bool) : Proper (.bool b)
  | int (n : Int) : Proper (.int n)
  | real {spelling : String} (numeral : Numeral spelling.toList (.real spelling)) :
    Proper (.real spelling)
  | str (s : String) : Proper (.str s)
  | arr {xs : List Json} (items : ∀ x ∈ xs, Proper x) : Proper (.arr xs)
  | obj {ms : List (String × Json)} (members : ∀ m ∈ ms, Proper m.2) : Proper (.obj ms)

theorem blank_nil : Blank [] := nofun

theorem blank_lineAt (level : Nat) : Blank (lineAt level) := by
  intro c hc
  rcases List.mem_cons.mp hc with rfl | hc
  · rfl
  · rw [(List.mem_replicate.mp hc).2]
    rfl

theorem spells_compactItems {xs : List Json}
    (h : ∀ x ∈ xs, Spells (.value x) (compactChars x)) : Spells (.items xs) (compactItems xs) := by
  induction xs with
  | nil =>
    rw [compactItems]
    exact .endArray
  | cons x xs ih =>
    obtain ⟨first, more⟩ := List.forall_mem_cons.mp h
    rw [compactItems]
    exact .item blank_nil first blank_nil (ih more)

theorem spells_compactMember {m : String × Json} (h : Spells (.value m.2) (compactChars m.2)) :
    Spells (.member m) (compactMember m) := by
  obtain ⟨name, v⟩ := m
  have member := Spells.member (spelled_flatMap name.toList) blank_nil blank_nil h
  rw [String.ofList_toList] at member
  simpa [compactMember, quoted] using member

theorem spells_compactMembers {ms : List (String × Json)}
    (h : ∀ m ∈ ms, Spells (.value m.2) (compactChars m.2)) :
    Spells (.members ms) (compactMembers ms) := by
  induction ms with
  | nil =>
    rw [compactMembers]
    exact .endObject
  | cons m ms ih =>
    obtain ⟨first, more⟩ := List.forall_mem_cons.mp h
    rw [compactMembers]
    exact .members blank_nil (spells_compactMember first) blank_nil (ih more)

/-- A value is spelled by its text without space. -/
theorem Proper.spells_compact {v : Json} (h : Proper v) : Spells (.value v) (compactChars v) := by
  induction h with
  | null =>
    rw [compactChars]
    exact .null
  | bool b =>
    cases b <;> rw [compactChars]
    · exact .bool false
    · exact .bool true
  | int n =>
    rw [compactChars]
    exact .number (numeral_write n)
  | real numeral =>
    rw [compactChars]
    exact .number numeral
  | str s =>
    rw [compactChars]
    exact spells_quoted s
  | @arr xs _ ih =>
    cases xs with
    | nil =>
      rw [compactChars]
      exact .emptyArray blank_nil
    | cons x xs =>
      obtain ⟨first, more⟩ := List.forall_mem_cons.mp ih
      rw [compactChars]
      exact .array blank_nil first blank_nil (spells_compactItems more)
  | @obj ms _ ih =>
    cases ms with
    | nil =>
      rw [compactChars]
      exact .emptyObject blank_nil
    | cons m ms =>
      obtain ⟨first, more⟩ := List.forall_mem_cons.mp ih
      rw [compactChars]
      exact .object blank_nil (spells_compactMember first) blank_nil (spells_compactMembers more)

-- In the grammar the white space before a comma or a closing bracket is not part of what follows,
-- so it is split off from the rest of an array or object.

theorem spells_prettyItems {level : Nat} {xs : List Json}
    (h : ∀ x ∈ xs, Spells (.value x) (prettyChars (level + 1) x)) :
    ∃ b ds, Blank b ∧ Spells (.items xs) ds ∧ prettyItems level xs = b ++ ds := by
  induction xs with
  | nil => exact ⟨lineAt level, [']'], blank_lineAt level, .endArray, by rw [prettyItems]⟩
  | cons x xs ih =>
    obtain ⟨first, more⟩ := List.forall_mem_cons.mp h
    obtain ⟨b, ds, blank, spells, split⟩ := ih more
    refine ⟨[], _, blank_nil, .item (blank_lineAt (level + 1)) first blank spells, ?_⟩
    rw [prettyItems, split, List.append_assoc, List.nil_append]

theorem spells_prettyMember {level : Nat} {m : String × Json}
    (h : Spells (.value m.2) (prettyChars (level + 1) m.2)) :
    Spells (.member m) (prettyMember level m) := by
  obtain ⟨name, v⟩ := m
  have space : Blank [' '] := List.forall_mem_singleton.mpr rfl
  have member := Spells.member (spelled_flatMap name.toList) blank_nil space h
  rw [String.ofList_toList] at member
  simpa [prettyMember, quoted] using member

theorem spells_prettyMembers {level : Nat} {ms : List (String × Json)}
    (h : ∀ m ∈ ms, Spells (.value m.2) (prettyChars (level + 1) m.2)) :
    ∃ b ds, Blank b ∧ Spells (.members ms) ds ∧ prettyMembers level ms = b ++ ds := by
  induction ms with
  | nil => exact ⟨lineAt level, ['\x7d'], blank_lineAt level, .endObject, by rw [prettyMembers]⟩
  | cons m ms ih =>
    obtain ⟨first, more⟩ := List.forall_mem_cons.mp h
    obtain ⟨b, ds, blank, spells, split⟩ := ih more
    refine ⟨[], _, blank_nil,
      .members (blank_lineAt (level + 1)) (spells_prettyMember first) blank spells, ?_⟩
    rw [prettyMembers, split, List.append_assoc, List.nil_append]

/-- A value is spelled by its text spread over lines. -/
theorem Proper.spells_pretty {v : Json} (h : Proper v) (level : Nat) :
    Spells (.value v) (prettyChars level v) := by
  induction h generalizing level with
  | null =>
    rw [prettyChars]
    exact .null
  | bool b =>
    cases b <;> rw [prettyChars]
    · exact .bool false
    · exact .bool true
  | int n =>
    rw [prettyChars]
    exact .number (numeral_write n)
  | real numeral =>
    rw [prettyChars]
    exact .number numeral
  | str s =>
    rw [prettyChars]
    exact spells_quoted s
  | @arr xs _ ih =>
    cases xs with
    | nil =>
      rw [prettyChars]
      exact .emptyArray blank_nil
    | cons x xs =>
      obtain ⟨first, more⟩ := List.forall_mem_cons.mp ih
      obtain ⟨b, ds, blank, spells, split⟩ := spells_prettyItems fun x hx => more x hx (level + 1)
      rw [prettyChars, split, List.append_assoc]
      exact .array (blank_lineAt (level + 1)) (first (level + 1)) blank spells
  | @obj ms _ ih =>
    cases ms with
    | nil =>
      rw [prettyChars]
      exact .emptyObject blank_nil
    | cons m ms =>
      obtain ⟨first, more⟩ := List.forall_mem_cons.mp ih
      obtain ⟨b, ds, blank, spells, split⟩ :=
        spells_prettyMembers fun m hm => more m hm (level + 1)
      rw [prettyChars, split, List.append_assoc]
      exact .object (blank_lineAt (level + 1)) (spells_prettyMember (first (level + 1))) blank
        spells

theorem Proper.document_compact {v : Json} (h : Proper v) : Document v v.compact :=
  ⟨[], v.compactChars, [], by simp [compact], blank_nil, h.spells_compact, blank_nil⟩

/-- A value spread over lines is its own document, also with white space after it. -/
theorem Proper.document_pretty {v : Json} (h : Proper v) {b : List Char} (blank : Blank b) :
    Document v (v.pretty ++ String.ofList b) :=
  ⟨[], v.prettyChars 0, b, by simp [pretty], blank_nil, h.spells_pretty 0, blank⟩

end Json
end RecordSync
