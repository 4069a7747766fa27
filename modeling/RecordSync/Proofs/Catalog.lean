import RecordSync.Proofs.Columns
import RecordSync.Proofs.Reads
import RecordSync.Proofs.Sql.Identifiers

/-!
# The columns that are accepted

The columns that the catalog lists are accepted if there are some, all of their names are plain
identifiers, and the convention columns are among them. Plain identifiers are the texts of a
pattern, `[a-z_][a-z0-9_]{0,62}`, which has to cover a name from its first character to its last
(`identifiers`). Only the convention columns that occur and the names that are not plain decide, in
whatever order and however often they are listed.

Of what may be wrong with a list the first thing is said: that it is empty, then the first name that
is not plain, then all the convention columns that are not there.

Key definitions: `Catalog.identifiers`, `Catalog.Faulty`.
Key theorems: `Catalog.mem_identifiers_iff`, `Catalog.isPlain_iff`, `Catalog.check_eq_error_iff`,
`Catalog.accepts_conforming_columns`.
-/
namespace RecordSync
namespace Catalog

/-! ### The pattern of plain identifiers -/

/-- The characters that an identifier may start with. -/
def starts : Set Char := Set.Icc 'a' 'z' ∪ {'_'}

/-- The characters that an identifier may go on with. -/
def rests : Set Char := starts ∪ Set.Icc '0' '9'

/-- The texts of one character of a class. -/
def one (S : Set Char) : Language Char := {w | ∃ c ∈ S, w = [c]}

/-- The texts of the pattern `[a-z_][a-z0-9_]{0,62}`. -/
def identifiers : Language Char := one starts * (1 + one rests) ^ 62

variable {S : Set Char} {cs : List Char} {name : String}

/-- At most so many characters, all of a class. -/
theorem mem_pow_iff {n : Nat} :
    cs ∈ (1 + one S) ^ n ↔ (∀ c ∈ cs, c ∈ S) ∧ cs.length ≤ n := by
  induction n generalizing cs with
  | zero =>
    rw [pow_zero, Language.mem_one, Nat.le_zero, List.length_eq_zero_iff]
    constructor
    · intro h
      simp [h]
    · exact And.right
  | succ n ih =>
    rw [pow_succ', Language.mem_mul]
    constructor
    · intro ⟨a, ha, b, hb, hab⟩
      obtain ⟨all, short⟩ := ih.mp hb
      subst hab
      rcases (Language.mem_add _ _ _).mp ha with ha | ⟨c, hc, ha⟩
      · rw [(Language.mem_one _).mp ha]
        exact ⟨all, by simp; omega⟩
      · rw [ha, List.singleton_append]
        exact ⟨List.forall_mem_cons.mpr ⟨hc, all⟩, by simpa using short⟩
    · intro ⟨all, short⟩
      by_cases h : cs = []
      · refine ⟨[], (Language.mem_add _ _ _).mpr (.inl rfl), [], ih.mpr ?_, h.symm⟩
        simp
      · obtain ⟨c, rest, rfl⟩ := List.exists_cons_of_ne_nil h
        obtain ⟨hc, hrest⟩ := List.forall_mem_cons.mp all
        have shorter : rest.length ≤ n := by simpa using short
        exact ⟨[c], .inr ⟨c, hc, rfl⟩, rest, ih.mpr ⟨hrest, shorter⟩, rfl⟩

/-- The texts of the pattern are those of one to 63 characters that start and go on as an identifier
may. -/
theorem mem_identifiers_iff : cs ∈ identifiers ↔
    ∃ c rest, cs = c :: rest ∧ c ∈ starts ∧ (∀ d ∈ rest, d ∈ rests) ∧ cs.length ≤ 63 := by
  unfold identifiers
  rw [Language.mem_mul]
  constructor
  · intro ⟨a, ⟨c, hc, ha⟩, rest, hrest, whole⟩
    obtain ⟨all, short⟩ := mem_pow_iff.mp hrest
    subst ha whole
    exact ⟨c, rest, rfl, hc, all, by simp; omega⟩
  · intro ⟨c, rest, whole, hc, all, short⟩
    subst whole
    have shorter : rest.length ≤ 62 := by rw [List.length_cons] at short; omega
    exact ⟨[c], ⟨c, hc, rfl⟩, rest, mem_pow_iff.mpr ⟨all, shorter⟩, rfl⟩

theorem mem_starts_iff {c : Char} : c ∈ starts ↔ c = '_' ∨ 'a' ≤ c ∧ c ≤ 'z' := by
  simp [starts]

theorem mem_rests_iff {c : Char} :
    c ∈ rests ↔ c = '_' ∨ 'a' ≤ c ∧ c ≤ 'z' ∨ '0' ≤ c ∧ c ≤ '9' := by
  rw [rests, Set.mem_union, mem_starts_iff, Set.mem_Icc, or_assoc]

theorem isPlainStart_iff {c : Char} : isPlainStart c = true ↔ c ∈ starts := by
  simp [isPlainStart, mem_starts_iff, or_comm]

theorem isPlainRest_iff {c : Char} : isPlainRest c = true ↔ c ∈ rests := by
  simp [isPlainRest, rests, isPlainStart_iff]

/-- A name is plain exactly when the pattern covers it. -/
theorem isPlain_iff : isPlain name = true ↔ name.toList ∈ identifiers := by
  rw [mem_identifiers_iff]
  unfold isPlain
  cases name.toList with
  | nil => simp
  | cons c rest =>
    have short_iff : rest.length < identifierLimit ↔ (c :: rest).length ≤ 63 := by
      unfold identifierLimit
      rw [List.length_cons]
      omega
    simp only [Bool.and_eq_true, List.all_eq_true, decide_eq_true_eq, isPlainStart_iff,
      isPlainRest_iff, short_iff]
    constructor
    · intro ⟨⟨start, all⟩, short⟩
      exact ⟨c, rest, rfl, start, all, short⟩
    · intro ⟨d, rest', whole, start, all, short⟩
      obtain ⟨rfl, rfl⟩ := List.cons.inj whole
      exact ⟨⟨start, all⟩, short⟩

/-! ### What is wrong with a list -/

variable {names names' : List String} {fault : Fault}

theorem conforms_iff : Conforms names ↔ names ≠ [] ∧ (∀ n ∈ names, n.toList ∈ identifiers) ∧
    ∀ c : ConventionColumn, c.name ∈ names := by
  simp only [← isPlain_iff]
  constructor
  · intro h
    exact ⟨h.nonempty, h.plain, h.complete⟩
  · intro ⟨nonempty, plain, complete⟩
    exact ⟨nonempty, plain, complete⟩

/-- What is wrong with a list of columns: that there are none, that a name is no plain identifier
where those before it are, or that all are and convention columns are not among them. -/
inductive Faulty : List String → Fault → Prop
  | noColumns : Faulty [] .noColumns
  | notPlain {left right : List String} {n : String} (before : ∀ m ∈ left, m.toList ∈ identifiers)
    (bad : n.toList ∉ identifiers) : Faulty (left ++ n :: right) (.notPlain n)
  | missing {names : List String} {cs : List ConventionColumn} (nonempty : names ≠ [])
    (plain : ∀ n ∈ names, n.toList ∈ identifiers) (some_missing : cs ≠ [])
    (ordered : cs.Sublist ConventionColumn.all) (exact : ∀ c, c ∈ cs ↔ c.name ∉ names) :
    Faulty names (.missing cs)

theorem mem_missingColumns_iff {c : ConventionColumn} :
    c ∈ missingColumns names ↔ c.name ∉ names := by
  simp [missingColumns, ConventionColumn.mem_all]

/-- Which convention columns are not there also says in which order they are named. -/
theorem eq_missingColumns {cs : List ConventionColumn} (ordered : cs.Sublist ConventionColumn.all)
    (exact : ∀ c, c ∈ cs ↔ c.name ∉ names) : missingColumns names = cs := by
  have once : ConventionColumn.all.Nodup := by decide
  have kept : (missingColumns names).Sublist ConventionColumn.all := List.filter_sublist
  apply (once.perm_iff_eq_of_sublist kept ordered).mp
  apply (List.perm_ext_iff_of_nodup (once.sublist kept) (once.sublist ordered)).mpr
  intro c
  rw [mem_missingColumns_iff, exact]

/-- The search for a name that is not plain finds the first one. -/
theorem find?_unplain_eq_some_iff {n : String} : names.find? (fun n => !isPlain n) = some n ↔
    ∃ left right, names = left ++ n :: right ∧ (∀ m ∈ left, m.toList ∈ identifiers) ∧
      n.toList ∉ identifiers := by
  rw [List.find?_eq_some_iff_append]
  simp only [Bool.not_eq_true', Bool.not_not, ← Bool.not_eq_true, isPlain_iff]
  constructor
  · intro ⟨bad, left, right, split, before⟩
    exact ⟨left, right, split, before, bad⟩
  · intro ⟨left, right, split, before, bad⟩
    exact ⟨bad, left, right, split, before⟩

theorem find?_unplain_eq_none_iff : names.find? (fun n => !isPlain n) = none ↔
    ∀ n ∈ names, n.toList ∈ identifiers := by
  simp [isPlain_iff]

/-- The first thing that is wrong with a list is said, and nothing is said without reason. -/
theorem check_eq_error_iff : check names = .error fault ↔ Faulty names fault := by
  unfold check
  constructor
  · intro h
    by_cases empty : names = []
    · subst empty
      obtain rfl : .noColumns = fault := by simpa using h
      exact .noColumns
    · rw [if_neg (by simpa using empty)] at h
      cases found : names.find? fun n => !isPlain n with
      | some n =>
        obtain rfl : .notPlain n = fault := by simpa [found] using h
        obtain ⟨left, right, rfl, before, bad⟩ := find?_unplain_eq_some_iff.mp found
        exact .notPlain before bad
      | none =>
        cases missing : missingColumns names with
        | nil => simp [found, missing] at h
        | cons c cs =>
          obtain rfl : .missing (c :: cs) = fault := by simpa [found, missing] using h
          rw [← missing]
          exact .missing empty (find?_unplain_eq_none_iff.mp found) (by simp [missing])
            List.filter_sublist fun c => mem_missingColumns_iff
  · intro h
    cases h with
    | noColumns => rfl
    | notPlain before bad =>
      rw [if_neg (by simp), find?_unplain_eq_some_iff.mpr ⟨_, _, rfl, before, bad⟩]
    | missing nonempty plain some_missing ordered exact =>
      rw [if_neg (by simpa using nonempty), find?_unplain_eq_none_iff.mpr plain]
      simp only [eq_missingColumns ordered exact]

/-! ### What decides -/

/-- Of the names only those of convention columns and those that are not plain matter. -/
theorem Conforms.congr (h : Conforms names)
    (same : ∀ n : String, (n.toList ∉ identifiers ∨ ∃ c : ConventionColumn, c.name = n) →
      (n ∈ names ↔ n ∈ names')) : Conforms names' := by
  have complete (c : ConventionColumn) : c.name ∈ names' :=
    (same c.name (.inr ⟨c, rfl⟩)).mp (h.complete c)
  refine ⟨List.ne_nil_of_mem (complete .id), fun n hn => ?_, complete⟩
  by_contra bad
  have listed : n ∈ names := (same n (.inl (mt isPlain_iff.mpr bad))).mpr hn
  exact bad (h.plain n listed)

theorem forall_names_iff {P : String → Prop} :
    (∀ n ∈ ["id", "user_id", "updated_at", "deleted"], P n) ↔ ∀ c : ConventionColumn, P c.name := by
  have listed : ["id", "user_id", "updated_at", "deleted"] =
      ConventionColumn.all.map ConventionColumn.name := rfl
  rw [listed, List.forall_mem_map]
  exact ⟨fun h c => h c c.mem_all, fun h c _ => h c⟩

/-! ### What is said and written of names -/

theorem commas_eq_intercalate (ss : List String) : Text.commas ss = ", ".intercalate ss := by
  induction ss with
  | nil => rfl
  | cons s ss ih =>
    cases ss with
    | nil => simp [Text.commas]
    | cons t ss => rw [Text.commas, String.intercalate_cons_cons, ih]; simp

/-- No character of an identifier is a quote. -/
theorem quote_notMem (h : cs ∈ identifiers) : '\x22' ∉ cs := by
  have apart : '\x22' ∉ rests := by rw [mem_rests_iff]; decide
  obtain ⟨c, rest, rfl, start, all, -⟩ := mem_identifiers_iff.mp h
  intro quoted
  rcases List.mem_cons.mp quoted with first | later
  · exact apart (.inl (first ▸ start))
  · exact apart (all _ later)

/-- A name without quotes is only put between two. -/
theorem body_of_notMem (h : '\x22' ∉ cs) : Quoted.body cs = cs := by
  induction cs with
  | nil => rfl
  | cons c cs ih =>
    rw [List.mem_cons, not_or] at h
    rw [Quoted.body, if_neg (Ne.symm h.1), ih h.2]

theorem quote_of_mem (h : name.toList ∈ identifiers) :
    Quoted.quote name = "\x22" ++ name ++ "\x22" := by
  apply String.toList_inj.mp
  rw [Quoted.toList_quote, Quoted.quoteChars, body_of_notMem (quote_notMem h)]
  simp

/-- **Columns are accepted exactly if they conform.** The names that the pattern covers have one to
63 characters, first a lower-case letter of ASCII or an underscore and then also digits of ASCII,
and nothing else, such as a line feed at the end. Columns are accepted exactly if there are some,
the pattern covers all their names, and the four convention columns are among them; so lists that
agree on which convention columns and which other than plain names occur are accepted or refused
alike.
What is said of a list that is refused is that the table was not found if the list is empty, else
the first name that is not plain, else the convention columns that are not there, each once and in
their order. Accepted names are quoted by putting them between quotes. -/
theorem accepts_conforming_columns (t : Table) (names : List String) :
    (∀ name : String, name.toList ∈ identifiers ↔ ∃ c cs, name.toList = c :: cs ∧
      (c = '_' ∨ 'a' ≤ c ∧ c ≤ 'z') ∧
      (∀ d ∈ cs, d = '_' ∨ 'a' ≤ d ∧ d ≤ 'z' ∨ '0' ≤ d ∧ d ≤ '9') ∧ name.length ≤ 63) ∧
    (check names = .ok () ↔ names ≠ [] ∧ (∀ n ∈ names, n.toList ∈ identifiers) ∧
      ∀ n ∈ ["id", "user_id", "updated_at", "deleted"], n ∈ names) ∧
    (∀ names' : List String,
      (∀ n : String, (n.toList ∉ identifiers ∨ ∃ c : ConventionColumn, c.name = n) →
        (n ∈ names ↔ n ∈ names')) →
      (check names = .ok () ↔ check names' = .ok ())) ∧
    (∀ reason, (∃ fault, check names = .error fault ∧ fault.reason t = reason) ↔
      names = [] ∧ reason = "table " ++ Text.lower t.name ++ " not found in catalog" ∨
      (∃ left n right, names = left ++ n :: right ∧ (∀ m ∈ left, m.toList ∈ identifiers) ∧
        n.toList ∉ identifiers ∧ reason = "column '" ++ n ++ "' is not a plain identifier") ∨
      names ≠ [] ∧ (∀ n ∈ names, n.toList ∈ identifiers) ∧ ∃ cs : List ConventionColumn,
        cs ≠ [] ∧ cs.Sublist [.id, .userId, .updatedAt, .deleted] ∧
        (∀ c, c ∈ cs ↔ c.name ∉ names) ∧
        reason = "missing columns: " ++ ", ".intercalate (cs.map ConventionColumn.name)) ∧
    (check names = .ok () → ∀ n ∈ names, Quoted.quote n = "\x22" ++ n ++ "\x22") := by
  refine ⟨fun name => ?_, ?_, fun names' same => ?_, fun reason => ?_, fun accepted n hn => ?_⟩
  · rw [mem_identifiers_iff, String.length_toList]
    simp only [mem_starts_iff, mem_rests_iff]
  · rw [check_eq_ok_iff, conforms_iff, forall_names_iff]
  · rw [check_eq_ok_iff, check_eq_ok_iff]
    exact ⟨fun h => h.congr same, fun h => h.congr fun n hn => (same n hn).symm⟩
  · constructor
    · intro ⟨fault, found, said⟩
      subst said
      cases check_eq_error_iff.mp found with
      | noColumns => exact .inl ⟨rfl, rfl⟩
      | notPlain before bad => exact .inr (.inl ⟨_, _, _, rfl, before, bad, rfl⟩)
      | missing nonempty plain some_missing ordered exact =>
        refine .inr (.inr ⟨nonempty, plain, _, some_missing, ordered, exact, ?_⟩)
        rw [← commas_eq_intercalate]
        rfl
    · rintro (⟨rfl, rfl⟩ | ⟨left, n, right, rfl, before, bad, rfl⟩ |
        ⟨nonempty, plain, cs, some_missing, ordered, exact, rfl⟩)
      · exact ⟨_, check_eq_error_iff.mpr .noColumns, rfl⟩
      · exact ⟨_, check_eq_error_iff.mpr (.notPlain before bad), rfl⟩
      · have faulty := Faulty.missing nonempty plain some_missing ordered exact
        refine ⟨_, check_eq_error_iff.mpr faulty, ?_⟩
        rw [← commas_eq_intercalate]
        rfl
  · exact quote_of_mem ((conforms_iff.mp (check_eq_ok_iff.mp accepted)).2.1 n hn)

/-- Columns in another order, one of them twice, with one more that has a digit; a name with a line
feed at its end; a list with two names that are not plain, and one without three of the columns. -/
theorem accepts_conforming_columns_of_moved :
    let columns := ["id", "user_id", "data", "updated_at", "deleted"]
    let moved := ["deleted", "id", "x_1", "id", "updated_at", "user_id"]
    check columns = .ok () ∧ check moved = .ok () ∧
    Quoted.quote "user_id" = "\x22user_id\x22" ∧ "id\n".toList ∉ identifiers ∧
    (∃ fault, check ["id", "Data", "a b"] = .error fault ∧
      fault.reason .textData = "column 'Data' is not a plain identifier") ∧
    ∃ fault, check ["data", "id"] = .error fault ∧
      fault.reason .textData = "missing columns: user_id, updated_at, deleted" := by
  intro columns moved
  obtain ⟨pattern, accepted_iff, alike, -, quoted⟩ := accepts_conforming_columns .textData columns
  obtain ⟨-, -, -, unplain, -⟩ := accepts_conforming_columns .textData ["id", "Data", "a b"]
  obtain ⟨-, -, -, missing, -⟩ := accepts_conforming_columns .textData ["data", "id"]
  have plain : ∀ n ∈ columns ++ moved ++ ["data", "id"], n.toList ∈ identifiers := by
    intro n hn
    have checked : ∀ n ∈ columns ++ moved ++ ["data", "id"], isPlain n = true := by decide
    exact isPlain_iff.mp (checked n hn)
  have accepted : check columns = .ok () := by
    apply accepted_iff.mpr
    exact ⟨by decide, fun n hn => plain n (by simp [hn]), by decide⟩
  refine ⟨accepted, (alike moved fun n special => ?_).mp accepted,
    quoted accepted "user_id" (by decide), ?_, (unplain _).mpr (.inr (.inl ?_)),
    (missing _).mpr (.inr (.inr ?_))⟩
  · rcases special with bad | ⟨c, rfl⟩
    · constructor
      · exact fun hn => absurd (plain n (by simp [hn])) bad
      · exact fun hn => absurd (plain n (by simp [hn])) bad
    · cases c <;> decide
  · intro covered
    obtain ⟨c, cs, whole, -, all, -⟩ := (pattern _).mp covered
    obtain ⟨-, rfl⟩ := List.cons.inj whole
    exact absurd (all '\n' (by decide)) (by decide)
  · refine ⟨["id"], "Data", ["a b"], rfl, ?_, ?_, rfl⟩
    · exact List.forall_mem_singleton.mpr (plain "id" (by simp))
    · rw [← isPlain_iff]
      decide
  · refine ⟨by decide, fun n hn => plain n (by simp [hn]), [.userId, .updatedAt, .deleted],
      by decide, by decide, fun c => ?_, by decide⟩
    cases c <;> decide

end Catalog
end RecordSync
