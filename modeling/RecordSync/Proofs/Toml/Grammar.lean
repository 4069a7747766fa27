import RecordSync.Proofs.Json.Writing
import RecordSync.Toml.Strings
import RecordSync.Toml.Value

/-!
# A grammar of tables

A file of tables is made of lines. A header opens a table, and the lines after it give its entries,
one key and one value on each; a line may also say nothing, being blank or a comment. A key is bare
or a basic string. A value is a basic string or a whole number in decimal. A basic string has any
printable character in it but the quote and the backslash, and escapes: by a letter, or by the four
or eight hexadecimal digits of a code point.

The grammar leaves out what the reader takes besides: other values, dotted keys, arrays of tables.
Whatever is to be an entry with a text or a number can be written in it.

Key definitions: `Toml.Spelled`, `Toml.SpellsKey`, `Toml.SpellsValue`, `Toml.Aside`,
`Toml.SpellsEntries`, `Toml.SpellsTable`, `Toml.SpellsTables`, `Toml.fileOf`.
Key theorems: `Toml.exists_spelled`, `Toml.exists_spellsTable`.
-/
namespace RecordSync
namespace Toml

/-! ### Strings and keys -/

/-- The characters that a letter after a backslash stands for. -/
def letters : List (Char × Char) :=
  [('b', '\x08'), ('t', '\t'), ('n', '\n'), ('f', '\x0c'), ('r', '\r'), ('\x22', '\x22'),
    ('\\', '\\')]

/-- What may stand between the quotes of a basic string, and the characters that it stands for. -/
inductive Spelled : List Char → List Char → Prop
  | nil : Spelled [] []
  | plain {c : Char} {cs s : List Char} (printable : isPrintable c = true) (quote : c ≠ '\x22')
    (backslash : c ≠ '\\') (more : Spelled cs s) : Spelled (c :: cs) (c :: s)
  | letter {e c : Char} {cs s : List Char} (letter : (e, c) ∈ letters) (more : Spelled cs s) :
    Spelled ('\\' :: e :: cs) (c :: s)
  | short {a b c d x : Char} {cs s : List Char} (value : Json.FourHex a b c d x.toNat)
    (more : Spelled cs s) : Spelled ('\\' :: 'u' :: a :: b :: c :: d :: cs) (x :: s)
  | long {a b c d e f g h x : Char} {high low : Nat} {cs s : List Char}
    (first : Json.FourHex a b c d high) (second : Json.FourHex e f g h low)
    (value : x.toNat = 0x10000 * high + low) (more : Spelled cs s) :
    Spelled ('\\' :: 'U' :: a :: b :: c :: d :: e :: f :: g :: h :: cs) (x :: s)

/-- The text of a key. -/
inductive SpellsKey : String → List Char → Prop
  | bare {key : String} (nonempty : key.toList ≠ []) (bare : ∀ c ∈ key.toList, isBare c = true) :
    SpellsKey key key.toList
  | quoted {cs s : List Char} (text : Spelled cs s) :
    SpellsKey (String.ofList s) ('\x22' :: (cs ++ ['\x22']))

/-! ### Values -/

/-- The greatest whole number that a value can be. -/
def largest : Nat := 2 ^ 63 - 1

/-- The text of a value. -/
inductive SpellsValue : Value → List Char → Prop
  | string {cs s : List Char} (text : Spelled cs s) :
    SpellsValue (.string (String.ofList s)) ('\x22' :: (cs ++ ['\x22']))
  | number {n : Nat} (small : n ≤ largest) : SpellsValue (.integer n) (Decimal.digits n)

/-! ### Lines -/

/-- Nothing but spaces and tabs. -/
def Space (cs : List Char) : Prop := ∀ c ∈ cs, isSpace c = true

theorem space_nil : Space [] := List.forall_mem_nil _

/-- What says nothing, by itself or at the end of a line: space, and perhaps a comment. -/
inductive Aside : List Char → Prop
  | space {a : List Char} (space : Space a) : Aside a
  | comment {a text : List Char} (space : Space a)
    (printable : ∀ c ∈ text, isPrintable c = true) : Aside (a ++ '#' :: text)

/-- A line that opens the table of a key. -/
inductive SpellsHeader : String → List Char → Prop
  | header {a b ks c d : List Char} {name : String} (indent : Space a) (before : Space b)
    (key : SpellsKey name ks) (after : Space c) (aside : Aside d) :
    SpellsHeader name (a ++ '[' :: (b ++ (ks ++ (c ++ ']' :: d))))

/-- A line that gives an entry. -/
inductive SpellsEntry : String × Value → List Char → Prop
  | entry {a ks b c vs d : List Char} {name : String} {v : Value} (indent : Space a)
    (key : SpellsKey name ks) (before : Space b) (after : Space c) (value : SpellsValue v vs)
    (aside : Aside d) : SpellsEntry (name, v) (a ++ (ks ++ (b ++ '=' :: (c ++ (vs ++ d)))))

/-- Lines that give entries one after the other. -/
inductive SpellsEntries : List (String × Value) → List (List Char) → Prop
  | nil : SpellsEntries [] []
  | aside {es : List (String × Value)} {l : List Char} {ls : List (List Char)} (aside : Aside l)
    (more : SpellsEntries es ls) : SpellsEntries es (l :: ls)
  | entry {e : String × Value} {es : List (String × Value)} {l : List Char}
    {ls : List (List Char)} (entry : SpellsEntry e l) (more : SpellsEntries es ls) :
    SpellsEntries (e :: es) (l :: ls)

/-- The lines of a table with its name and its entries. -/
inductive SpellsTable (name : String) (es : List (String × Value)) : List (List Char) → Prop
  | aside {l : List Char} {ls : List (List Char)} (aside : Aside l)
    (more : SpellsTable name es ls) : SpellsTable name es (l :: ls)
  | header {l : List Char} {ls : List (List Char)} (header : SpellsHeader name l)
    (entries : SpellsEntries es ls) : SpellsTable name es (l :: ls)

/-- The lines of tables one after the other. -/
inductive SpellsTables : List (String × List (String × Value)) → List (List Char) → Prop
  | nil : SpellsTables [] []
  | table {name : String} {es : List (String × Value)} {ts : List (String × List (String × Value))}
    {ls ms : List (List Char)} (table : SpellsTable name es ls) (more : SpellsTables ts ms) :
    SpellsTables ((name, es) :: ts) (ls ++ ms)

/-- The text of lines. -/
def fileOf (ls : List (List Char)) : String := String.ofList (['\n'].intercalate ls)

/-! ### Everything can be written -/

/-- A character as it stands between quotes, by four digits if it is not printable. -/
def escaped (c : Char) : List Char :=
  if c = '\x22' then ['\\', '\x22']
  else if c = '\\' then ['\\', '\\']
  else if isPrintable c then [c]
  else
    ['\\', 'u', '0', '0', Json.hexDigit (c.toNat / 16), Json.hexDigit (c.toNat % 16)]

/-- A text between quotes. -/
def quoted (s : String) : List Char := '\x22' :: (s.toList.flatMap escaped ++ ['\x22'])

theorem Spelled.escaped {cs s : List Char} (more : Spelled cs s) (c : Char) :
    Spelled (Toml.escaped c ++ cs) (c :: s) := by
  unfold Toml.escaped
  split_ifs with quote backslash printable
  · subst quote
    exact .letter (by decide) more
  · subst backslash
    exact .letter (by decide) more
  · exact .plain printable quote backslash more
  · have control : c.toNat < 0x80 := by
      simp [isPrintable] at printable
      omega
    have value : Json.FourHex '0' '0' (Json.hexDigit (c.toNat / 16)) (Json.hexDigit (c.toNat % 16))
        c.toNat :=
      ⟨0, 0, c.toNat / 16, c.toNat % 16, .inl rfl, .inl rfl, Json.hexDigit_hexDigit (by omega),
        Json.hexDigit_hexDigit (by omega), by omega⟩
    exact .short value more

theorem spelled_flatMap : ∀ s : List Char, Spelled (s.flatMap escaped) s
  | [] => .nil
  | c :: s => (spelled_flatMap s).escaped c

theorem spellsKey_quoted (key : String) : SpellsKey key (quoted key) := by
  have h := SpellsKey.quoted (spelled_flatMap key.toList)
  rwa [String.ofList_toList] at h

theorem spellsValue_quoted (s : String) : SpellsValue (.string s) (quoted s) := by
  have h := SpellsValue.string (spelled_flatMap s.toList)
  rwa [String.ofList_toList] at h

/-- A value that the grammar can write: a text, or a whole number from zero up. -/
inductive Plain : Value → Prop
  | string (s : String) : Plain (.string s)
  | number {n : Nat} (small : n ≤ largest) : Plain (.integer n)

theorem Plain.exists_spellsValue {v : Value} (h : Plain v) : ∃ vs, SpellsValue v vs := by
  cases h with
  | string s => exact ⟨_, spellsValue_quoted s⟩
  | number small => exact ⟨_, .number small⟩

theorem exists_spellsEntries {es : List (String × Value)} (plain : ∀ e ∈ es, Plain e.2) :
    ∃ ls, SpellsEntries es ls := by
  induction es with
  | nil => exact ⟨[], .nil⟩
  | cons e es ih =>
    obtain ⟨first, rest⟩ := List.forall_mem_cons.mp plain
    obtain ⟨ls, more⟩ := ih rest
    obtain ⟨vs, value⟩ := first.exists_spellsValue
    exact ⟨_, .entry (.entry space_nil (spellsKey_quoted e.1) space_nil space_nil value
      (.space space_nil)) more⟩

/-- Every table of texts and numbers can be written. -/
theorem exists_spellsTable (name : String) {es : List (String × Value)}
    (plain : ∀ e ∈ es, Plain e.2) : ∃ ls, SpellsTable name es ls := by
  obtain ⟨ls, entries⟩ := exists_spellsEntries plain
  exact ⟨_, .header (.header space_nil space_nil (spellsKey_quoted name) space_nil
    (.space space_nil)) entries⟩

end Toml
end RecordSync
