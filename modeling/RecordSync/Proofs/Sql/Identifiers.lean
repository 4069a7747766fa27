import Mathlib
import RecordSync.Statement

/-!
# Identifiers between quotes

An identifier that is quoted stands for its name whatever characters the name has: quotes in it are
doubled, so the first quote that is not doubled is the one that was put at its end. The lexer ends
there, with all that follows still to be read. A read lists the names of columns in this way, with a
comma and a space between each two; the lexer gets back the list, and stops where it was ended.

Key definitions: `Quoted.Closes`, `Quoted.lexList?`.
Key theorems: `Quoted.lexBody?_eq_some_iff`, `Quoted.lex?_eq_some_iff`, `Quoted.quote_injective`,
`Quoted.lexList?_columnList`, `Quoted.names_read_back`.
-/
namespace RecordSync
namespace Quoted

/-! ### One identifier

Where the lexer stops is a matter of the text alone: it is at the first quote that is not one of a
doubled pair. `Closes` says so without the lexer. -/

/-- What follows an opening quote spells a name up to its closing quote; two quotes stand for one,
and a single one closes. What is left follows the closing quote. -/
inductive Closes : List Char → List Char → List Char → Prop
  | closing {rest : List Char} (last : rest.head? ≠ some '\x22') : Closes ('\x22' :: rest) [] rest
  | doubled {cs name rest : List Char} (more : Closes cs name rest) :
    Closes ('\x22' :: '\x22' :: cs) ('\x22' :: name) rest
  | plain {c : Char} {cs name rest : List Char} (apart : c ≠ '\x22') (more : Closes cs name rest) :
    Closes (c :: cs) (c :: name) rest

variable {cs name rest : List Char}

/-- A quote that no other quote follows ends what is read. -/
theorem lexBody?_closing (last : rest.head? ≠ some '\x22') :
    lexBody? ('\x22' :: rest) = some ([], rest) :=
  lexBody?_body [] rest last

theorem lexBody?_plain {c : Char} (apart : c ≠ '\x22') :
    lexBody? (c :: cs) = (lexBody? cs).map fun r => (c :: r.1, r.2) := by
  rw [lexBody?.eq_def]
  simp [apart]

/-- The lexer reads what is spelled, and nothing else. -/
theorem lexBody?_eq_some_iff : lexBody? cs = some (name, rest) ↔ Closes cs name rest := by
  constructor
  · intro h
    fun_induction lexBody? cs generalizing name with
    | case1 => cases h
    | case2 cs ih =>
      obtain ⟨⟨name', rest'⟩, read, same⟩ := Option.map_eq_some_iff.mp h
      cases same
      exact .doubled (ih read)
    | case3 cs apart =>
      cases h
      refine .closing fun next => ?_
      obtain ⟨more, rfl⟩ := List.head?_eq_some_iff.mp next
      exact apart more rfl rfl
    | case4 c cs _ apart ih =>
      obtain ⟨⟨name', rest'⟩, read, same⟩ := Option.map_eq_some_iff.mp h
      cases same
      exact .plain apart (ih read)
  · intro h
    induction h with
    | closing last => exact lexBody?_closing last
    | doubled _ ih => rw [lexBody?, ih]; rfl
    | plain apart _ ih => rw [lexBody?_plain apart, ih]; rfl

/-- What spells a name is the name with its quotes doubled, a quote, and then no quote. -/
theorem closes_iff :
    Closes cs name rest ↔ cs = body name ++ '\x22' :: rest ∧ rest.head? ≠ some '\x22' := by
  constructor
  · intro h
    induction h with
    | closing last => exact ⟨rfl, last⟩
    | doubled _ ih => exact ⟨by rw [ih.1]; rfl, ih.2⟩
    | plain apart _ ih => exact ⟨by rw [ih.1, body, if_neg apart]; rfl, ih.2⟩
  · rintro ⟨rfl, last⟩
    exact lexBody?_eq_some_iff.mp (lexBody?_body name rest last)

/-- An identifier is read off the front of a text exactly when the text is that identifier, quoted,
and then something that does not open with a quote. -/
theorem lex?_eq_some_iff :
    lex? cs = some (name, rest) ↔ cs = quoteChars name ++ rest ∧ rest.head? ≠ some '\x22' := by
  have opened : quoteChars name ++ rest = '\x22' :: (body name ++ '\x22' :: rest) := by
    simp [quoteChars]
  cases cs with
  | nil => simp [lex?, opened]
  | cons c cs =>
    by_cases quote : c = '\x22'
    · subst quote
      rw [lex?, if_pos rfl, lexBody?_eq_some_iff, closes_iff, opened, List.cons_inj_right]
    · rw [lex?, if_neg quote, opened]
      simp [quote]

/-- Reading the quoted name gives the name, and leaves what follows. -/
theorem lex?_quoteChars (last : rest.head? ≠ some '\x22') :
    lex? (quoteChars name ++ rest) = some (name, rest) :=
  lex?_eq_some_iff.mpr ⟨rfl, last⟩

theorem toList_quote (name : String) : (quote name).toList = quoteChars name.toList :=
  String.toList_ofList

/-- Two names are quoted alike only if they are the same name. -/
theorem quote_injective : Function.Injective quote := by
  intro a b same
  have read (s : String) : lex? (quote s).toList = some (s.toList, []) := by
    have alone : lex? (quoteChars s.toList ++ []) = some (s.toList, []) := lex?_quoteChars (by simp)
    rwa [List.append_nil, ← toList_quote] at alone
  have both := (read a).symm.trans (same ▸ read b)
  exact String.toList_inj.mp (congrArg Prod.fst (Option.some.inj both))

/-! ### A list of identifiers -/

/-- What is left of a text after a comma and a space, when it opens with these. -/
def separator? : List Char → Option (List Char)
  | ',' :: ' ' :: cs => some cs
  | _ => none

theorem separator?_length (h : separator? cs = some rest) : rest.length < cs.length := by
  unfold separator? at h
  split at h
  · cases h
    simp
  · cases h

theorem lex?_length (h : lex? cs = some (name, rest)) : rest.length < cs.length := by
  obtain ⟨rfl, -⟩ := lex?_eq_some_iff.mp h
  simp only [quoteChars, List.length_append, List.length_cons]
  omega

/-- Reads one quoted identifier, and another after each comma and space; gives the identifiers and
what follows the last. -/
def lexSome? (cs : List Char) : Option (List (List Char) × List Char) :=
  match _hread : lex? cs with
  | none => none
  | some (name, rest) =>
    match _hnext : separator? rest with
    | none => some ([name], rest)
    | some more => (lexSome? more).map fun r => (name :: r.1, r.2)
termination_by cs.length
decreasing_by exact (separator?_length _hnext).trans (lex?_length _hread)

/-- Reads quoted identifiers with a comma and a space between each two; there are none in a text
that does not open with a quote. -/
def lexList? (cs : List Char) : Option (List (List Char) × List Char) :=
  if cs.head? = some '\x22' then lexSome? cs else some ([], cs)

/-- The last identifier of a list is the one that no separator follows. -/
theorem lexSome?_last (last : rest.head? ≠ some '\x22') (ended : separator? rest = none) :
    lexSome? (quoteChars name ++ rest) = some ([name], rest) := by
  rw [lexSome?]
  grind [lex?_quoteChars]

/-- After a separator there is one more. -/
theorem lexSome?_cons :
    lexSome? (quoteChars name ++ ',' :: ' ' :: cs) =
      (lexSome? cs).map fun r => (name :: r.1, r.2) := by
  have read : lex? (quoteChars name ++ ',' :: ' ' :: cs) = some (name, ',' :: ' ' :: cs) :=
    lex?_quoteChars (by simp)
  have next : separator? (',' :: ' ' :: cs) = some cs := rfl
  rw [lexSome?]
  grind

open Statement (columnList)

theorem columnList_cons (name next : String) (names : List String) :
    (columnList (name :: next :: names)).toList =
      quoteChars name.toList ++ ',' :: ' ' :: (columnList (next :: names)).toList := by
  simp [columnList, Text.commas, toList_quote]

theorem columnList_head (name : String) (names : List String) :
    (columnList (name :: names)).toList.head? = some '\x22' := by
  cases names with
  | nil => simp [columnList, Text.commas, toList_quote, quoteChars]
  | cons next names => simp [columnList_cons, quoteChars]

/-- The list that is written is the list that is read, and the reader stops where it was ended: at
anything that is neither another quote nor a separator. -/
theorem lexList?_columnList (names : List String) (last : rest.head? ≠ some '\x22')
    (ended : separator? rest = none) :
    lexList? ((columnList names).toList ++ rest) = some (names.map String.toList, rest) := by
  cases names with
  | nil => simp [columnList, Text.commas, lexList?, last]
  | cons name names =>
    have opened := columnList_head name names
    rw [lexList?, if_pos (by simp [List.head?_append, opened])]
    clear opened
    induction names generalizing name with
    | nil => simpa [columnList, Text.commas, toList_quote] using lexSome?_last last ended
    | cons next names ih =>
      rw [columnList_cons, List.append_assoc, List.cons_append, List.cons_append, lexSome?_cons,
        ih next]
      rfl

/-! ### What a read names

The names of the columns that a read asks for are whatever the catalog gave. -/

/-- **Identifiers cannot be escaped from.** Whatever name is quoted, and whatever follows that does
not open with a quote, the lexer gives back the name and leaves just what follows, by the rule that
`Closes` states; so two names are never quoted alike. And whatever names a read asks for, what
stands after its first word is read back as these names in their order, up to where the rows come
from: the constant name of the table. -/
theorem names_read_back :
    (∀ (name : String) (rest : List Char), rest.head? ≠ some '\x22' →
      (∃ cs, (quote name).toList = '\x22' :: cs ∧ Closes (cs ++ rest) name.toList rest) ∧
        lex? ((quote name).toList ++ rest) = some (name.toList, rest)) ∧
      (∀ cs name rest, lexBody? cs = some (name, rest) ↔ Closes cs name rest) ∧
      Function.Injective quote ∧
      ∀ (t : Table) (names : List String) (user : UserId) (since : Option Instant)
        (includeDeleted : Bool), ∃ following conditions : String,
        (Query.select t names user since includeDeleted).statement.text = "SELECT " ++ following ∧
          lexList? following.toList = some (names.map String.toList,
            (" FROM " ++ t.name ++ " WHERE user_id = " ++ conditions).toList) := by
  refine ⟨fun name rest last => ⟨?_, ?_⟩, fun _ _ _ => lexBody?_eq_some_iff, quote_injective,
    fun t names user since includeDeleted => ?_⟩
  · refine ⟨body name.toList ++ ['\x22'], toList_quote name, closes_iff.mpr ⟨?_, last⟩⟩
    simp
  · rw [toList_quote]
    exact lex?_quoteChars last
  · let later := if includeDeleted then "" else " AND deleted = FALSE"
    let since? := Statement.sinceCondition (since.map fun _ => 2)
    let conditions := Statement.placeholder 1 ++ (later ++ (since? ++ " ORDER BY updated_at, id"))
    have shape := calc (Query.select t names user since includeDeleted).statement.text
      _ = "SELECT " ++ columnList names ++ " FROM " ++ t.name ++ " WHERE user_id = " ++
            Statement.placeholder 1 ++ later ++ since? ++ " ORDER BY updated_at, id" := rfl
      _ = "SELECT " ++
            (columnList names ++ (" FROM " ++ t.name ++ " WHERE user_id = " ++ conditions)) := by
          simp only [String.append_assoc, conditions]
    refine ⟨_, conditions, shape, ?_⟩
    rw [String.toList_append]
    exact lexList?_columnList names (by simp) (by simp [separator?])

/-- Names that are made of quotes and separators are read back, and so is an empty name. -/
theorem names_read_back_of_quotes :
    ((" FROM".toList).head? ≠ some '\x22' ∧
        lex? ((quote "\x22").toList ++ " FROM".toList) = some (['\x22'], " FROM".toList)) ∧
      ∃ following conditions : String,
        (Query.select .textData ["\x22", "a\x22, \x22b", ""] ⟨7, by decide⟩ none
          false).statement.text = "SELECT " ++ following ∧
        lexList? following.toList = some ([['\x22'], "a\x22, \x22b".toList, []],
          (" FROM " ++ Table.textData.name ++ " WHERE user_id = " ++ conditions).toList) :=
  ⟨⟨by decide, (names_read_back.1 "\x22" " FROM".toList (by decide)).2⟩,
    names_read_back.2.2.2 .textData ["\x22", "a\x22, \x22b", ""] ⟨7, by decide⟩ none false⟩

end Quoted
end RecordSync
