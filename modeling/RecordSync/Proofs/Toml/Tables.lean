import RecordSync.Proofs.Toml.Reading

/-!
# Tables one after the other

Every line of a file changes what stands under one key of the whole, the first one of its path or
of the header that is open, and leaves the other keys as they are. So the text after a table can be
read as if the table were not there, as long as it does not come back to the table's name: whatever
it holds, the table stands in front of what it gives. A table of the grammar gives its entries, and
from one table to the next a file of tables gives them all.

Key definitions: `Toml.Touches`, `Toml.StartsTable`.
Key theorems: `Toml.readLine?_touches`, `Toml.Reads.beside`, `Toml.SpellsTable.parse?`,
`Toml.SpellsTables.parse?`.
-/
namespace RecordSync
namespace Toml

variable {key name : String} {keys path : List String} {e : String × Node} {es es' : Entries}
  {change : Entries → Option Entries} {p q : Progress} {cs rest : List Char}

/-! ### One key at a time -/

/-- The keys of entries. -/
def keysOf {α : Type} (es : List (String × α)) : List String := es.map Prod.fst

/-- A change that concerns what stands under one key: another entry in front stays there and makes
no difference, and afterwards the key is there, as are all that were there before. -/
structure Touches (key : String) (change : Entries → Option Entries) : Prop where
  beside : ∀ e es, e.1 ≠ key → change (e :: es) = (change es).map fun es => e :: es
  keys : ∀ es es', change es = some es' → key ∈ keysOf es' ∧ keysOf es ⊆ keysOf es'

theorem touches_alter? (key : String) (change : Option Node → Option Node) :
    Touches key (alter? key change) where
  beside e es other := by rw [alter?, if_neg other]
  keys es es' changed := by
    induction es generalizing es' with
    | nil =>
      obtain ⟨n, _, rfl⟩ := Option.map_eq_some_iff.mp changed
      simp [keysOf]
    | cons e es ih =>
      rw [alter?] at changed
      split at changed
      · obtain ⟨n, _, rfl⟩ := Option.map_eq_some_iff.mp changed
        simp_all [keysOf]
      · obtain ⟨more, later, rfl⟩ := Option.map_eq_some_iff.mp changed
        obtain ⟨there, kept⟩ := ih more later
        exact ⟨List.mem_cons_of_mem _ there, List.cons_subset_cons _ kept⟩

theorem touches_within? (change : Entries → Option Entries) (key : String) (keys : List String) :
    Touches key (within? change (key :: keys)) := touches_alter? key _

theorem touches_openKey? (key : String) : Touches key (openKey? key) where
  beside e es other := by
    have looked : (e :: es).lookup key = es.lookup key := by
      rw [List.lookup, beq_eq_false_iff_ne.mpr other.symm]
    have filtered : (e :: es).filter (fun e => e.1 != key) = e :: es.filter fun e => e.1 != key :=
      List.filter_cons_of_pos (by simpa using other)
    rw [openKey?, looked, filtered, openKey?]
    split <;> rfl
  keys es es' opened := by
    unfold openKey? at opened
    split at opened
    · cases opened
      simp [keysOf]
    · cases opened
      simp only [keysOf, List.map_append, List.map_cons, List.map_nil, List.mem_append,
        List.mem_singleton, or_true, true_and]
      intro k there
      obtain ⟨n, there⟩ : ∃ n, (k, n) ∈ es := by simpa using there
      by_cases same : k = key
      · simp [same]
      · exact List.mem_append_left _ (List.mem_map.mpr ⟨(k, n), by simp [there, same], rfl⟩)
    · cases opened

/-- A change of the last key of a path touches the first one. -/
theorem touches_dropLast {last : String → Entries → Option Entries}
    (h : ∀ key, Touches key (last key)) (key : String) (keys : List String) :
    Touches key (within? (last ((key :: keys).getLast (by simp))) (key :: keys).dropLast) := by
  cases keys with
  | nil => exact h key
  | cons next keys => exact touches_within? _ key _

theorem touches_openTable? (key : String) (keys : List String) :
    Touches key (openTable? (key :: keys)) := by
  unfold openTable?
  exact touches_dropLast touches_openKey? key keys

theorem touches_addTable? (key : String) (keys : List String) :
    Touches key (addTable? (key :: keys)) := by
  unfold addTable?
  exact touches_dropLast (fun key => touches_alter? key _) key keys

/-! ### One line at a time -/

/-- Reading a line, as it depends on the entries that have been read: it fails whatever they are, or
it touches one key of them and opens a header or leaves one open. -/
def ByKey (read : Entries → Option (Progress × List Char)) : Prop :=
  (∀ es, read es = none) ∨ ∃ key change header rest, Touches key change ∧ header ≠ [] ∧
    ∀ es, read es = (change es).map fun es => (⟨es, header⟩, rest)

theorem byKey_none : ByKey fun _ => none := .inl fun _ => rfl

theorem byKey_of_touches (touches : Touches key change) {header : List String}
    (opened : header ≠ []) (after : Option (List Char)) :
    ByKey fun es => (change es).bind fun es => after.bind fun rest =>
      some (⟨es, header⟩, rest) := by
  cases after with
  | none => exact .inl fun es => by simp
  | some rest =>
    refine .inr ⟨key, change, header, rest, touches, opened, fun es => ?_⟩
    simp only [Option.bind_some, Option.map_eq_bind, Function.comp_def]

theorem byKey_readHeader? (header : List String) (cs : List Char) :
    ByKey fun es => readHeader? ⟨es, header⟩ cs := by
  simp only [readHeader?, Option.bind_eq_bind]
  rcases readPath? cs with _ | ⟨path, _ | ⟨c, mid⟩⟩
  · exact byKey_none
  · exact byKey_none
  · by_cases same : c = ']'
    · subst same
      cases path with
      | nil => exact byKey_none
      | cons key keys =>
        exact byKey_of_touches (touches_openTable? key keys) (List.cons_ne_nil key keys)
          (endLine? mid)
    · simpa [same] using byKey_none

theorem byKey_readArrayHeader? (header : List String) (cs : List Char) :
    ByKey fun es => readArrayHeader? ⟨es, header⟩ cs := by
  simp only [readArrayHeader?, Option.bind_eq_bind]
  rcases readPath? cs with _ | ⟨path, _ | ⟨c, _ | ⟨d, mid⟩⟩⟩
  · exact byKey_none
  · exact byKey_none
  · simpa using byKey_none
  · by_cases same : c = ']' ∧ d = ']'
    · obtain ⟨rfl, rfl⟩ := same
      cases path with
      | nil => exact byKey_none
      | cons key keys =>
        exact byKey_of_touches (touches_addTable? key keys) (List.cons_ne_nil key keys)
          (endLine? mid)
    · rw [not_and] at same
      by_cases first : c = ']'
      · simpa [first, same first] using byKey_none
      · simpa [first] using byKey_none

theorem byKey_readKeyValue? {header : List String} (opened : header ≠ []) (cs : List Char) :
    ByKey fun es => readKeyValue? ⟨es, header⟩ cs := by
  obtain ⟨key, keys, rfl⟩ := List.exists_cons_of_ne_nil opened
  simp only [readKeyValue?, Option.bind_eq_bind]
  rcases readPath? cs with _ | ⟨path, _ | ⟨c, mid⟩⟩
  · exact byKey_none
  · exact byKey_none
  · by_cases same : c = '='
    · subst same
      rcases value : readValue? (mid.length + 1) (levelLimit - 1) (skipSpace mid) with _ | ⟨v, more⟩
      · simpa [value] using byKey_none
      · simpa [value] using
          byKey_of_touches (touches_within? (insertAt? v path) key keys) opened (endLine? more)
    · simpa [same] using byKey_none

/-- A header is read alike whichever was open before. -/
theorem readLine?_header (es : Entries) (header header' : List String) (cs : List Char) :
    readLine? ⟨es, header⟩ ('[' :: cs) = readLine? ⟨es, header'⟩ ('[' :: cs) := by
  unfold readLine?
  split <;> rfl

theorem byKey_readLine? {header : List String} (cs : List Char)
    (opened : header ≠ [] ∨ cs.head? = some '[') : ByKey fun es => readLine? ⟨es, header⟩ cs := by
  unfold readLine?
  split
  · exact byKey_readArrayHeader? header _
  · exact byKey_readHeader? header _
  · rename_i noBracket
    refine byKey_readKeyValue? (opened.resolve_right fun bracket => ?_) _
    obtain ⟨ds, rfl⟩ := List.head?_eq_some_iff.mp bracket
    exact noBracket ds rfl

/-! ### Past a table -/

/-- With another entry in front a line is read alike, as long as it does not touch that entry. -/
theorem readLine?_beside {header : List String} (opened : header ≠ [] ∨ cs.head? = some '[')
    (line : readLine? ⟨es, header⟩ cs = some (q, rest)) :
    q.header ≠ [] ∧ keysOf es ⊆ keysOf q.entries ∧ ∀ e, e.1 ∉ keysOf q.entries →
      readLine? ⟨e :: es, header⟩ cs = some (⟨e :: q.entries, q.header⟩, rest) := by
  rcases byKey_readLine? cs opened with none | ⟨key, change, header', rest', touches, some, read⟩
  · exact absurd line (by simp [none es])
  · dsimp only at read
    rw [read] at line
    obtain ⟨es', changed, same⟩ := Option.map_eq_some_iff.mp line
    cases same
    obtain ⟨there, kept⟩ := touches.keys es es' changed
    refine ⟨some, kept, fun e new => ?_⟩
    have other : e.1 ≠ key := fun same => new (same ▸ there)
    rw [read, touches.beside e es other, changed]
    rfl

/-- With another entry in front the rest of a file is read alike, as long as it gives no entry of
that key. -/
theorem readFile?_beside {fuel : Nat} (opened : p.header ≠ [])
    (read : readFile? fuel p cs = some q) : keysOf p.entries ⊆ keysOf q.entries ∧
      ∀ e, e.1 ∉ keysOf q.entries → ∃ header,
        readFile? fuel ⟨e :: p.entries, p.header⟩ cs = some ⟨e :: q.entries, header⟩ := by
  induction fuel generalizing p cs with
  | zero => cases read
  | succ fuel ih =>
    rw [readFile?] at read
    obtain ⟨ds, skip, read⟩ := Option.bind_eq_some_iff.mp read
    split at read
    · rename_i ended
      obtain rfl := Option.some.inj read
      refine ⟨List.Subset.refl _, fun e _ => ⟨p.header, ?_⟩⟩
      simp [readFile?, skip, List.isEmpty_iff.mp ended]
    · rename_i more
      rw [List.isEmpty_iff] at more
      obtain ⟨⟨p', rest⟩, line, read⟩ := Option.bind_eq_some_iff.mp read
      obtain ⟨opened', kept, beside⟩ := readLine?_beside (.inl opened) line
      obtain ⟨kept', beside'⟩ := ih opened' read
      refine ⟨List.Subset.trans kept kept', fun e new => ?_⟩
      obtain ⟨header, after⟩ := beside' e new
      refine ⟨header, ?_⟩
      simp [readFile?, skip, more, beside e fun there => new (kept' there), after]

/-- A text says nothing before its first header. -/
def StartsTable (cs : List Char) : Prop :=
  ∀ ds, skipBlank? cs = some ds → ds = [] ∨ ds.head? = some '['

/-- What follows a table is read as if the table were not there. -/
theorem Reads.beside (read : Reads {} cs q) (starts : StartsTable cs) (header : List String)
    (new : e.1 ∉ keysOf q.entries) :
    ∃ header', Reads ⟨[e], header⟩ cs ⟨e :: q.entries, header'⟩ := by
  have read := read (cs.length + 1) (Nat.lt_succ_self _)
  suffices ∃ header', readFile? (cs.length + 1) ⟨[e], header⟩ cs = some ⟨e :: q.entries, header'⟩ by
    obtain ⟨header', read⟩ := this
    exact ⟨header', reads_of_readFile? (Nat.le_refl _) read⟩
  rw [readFile?] at read
  obtain ⟨ds, skip, read⟩ := Option.bind_eq_some_iff.mp read
  rcases starts ds skip with rfl | bracket
  · cases read
    exact ⟨header, by simp [readFile?, skip]⟩
  · obtain ⟨more, rfl⟩ := List.head?_eq_some_iff.mp bracket
    obtain ⟨⟨p, rest⟩, line, read⟩ := Option.bind_eq_some_iff.mp read
    obtain ⟨opened, -, beside⟩ := readLine?_beside (.inr rfl) line
    obtain ⟨kept, beside'⟩ := readFile?_beside opened read
    obtain ⟨header', after⟩ := beside' e new
    have first := beside e fun there => new (kept there)
    rw [readLine?_header _ _ header] at first
    exact ⟨header', by simp [readFile?, skip, first, after]⟩

/-! ### Lines of a table -/

/-- What stands behind a line: the lines that follow, each after a line end. -/
def following (ls : List (List Char)) : List Char := ls.flatMap fun l => '\n' :: l

theorem intercalate_cons (l : List Char) (ls : List (List Char)) :
    ['\n'].intercalate (l :: ls) = l ++ following ls := by
  induction ls generalizing l with
  | nil => simp [following]
  | cons l' ls ih =>
    rw [List.intercalate_cons_cons, ih, following, following, List.flatMap_cons,
      List.append_assoc, List.singleton_append]
    rfl

theorem following_tail (ls : List (List Char)) : (following ls).tail = ['\n'].intercalate ls := by
  cases ls with
  | nil => rfl
  | cons l ls =>
    rw [intercalate_cons, following, List.flatMap_cons]
    rfl

theorem atLineEnd_following (ls : List (List Char)) : AtLineEnd (following ls) := by
  cases ls with
  | nil => exact .file
  | cons l ls => exact .line _

/-- An entry as it stands while a file is read. -/
def leaf (e : String × Value) : String × Node := (e.1, .value e.2)

/-- What has been read within one table. -/
def inTable (name : String) (nodes : Entries) : Progress := ⟨[(name, .table .header nodes)], [name]⟩

theorem insertAt?_of_new (v : Value) (new : key ∉ keysOf es) :
    insertAt? v [key] es = some (es ++ [(key, .value v)]) := by
  unfold insertAt?
  induction es with
  | nil => rfl
  | cons e es ih =>
    simp only [keysOf, List.map_cons, List.mem_cons, not_or] at new
    rw [alter?, if_neg (Ne.symm new.1), ih new.2]
    rfl

variable {entries : List (String × Value)} {ls ms : List (List Char)}

/-- Lines put their entries into the table that is open. -/
theorem SpellsEntries.reads (h : SpellsEntries entries ls) (nodes : Entries)
    (new : (keysOf nodes ++ keysOf entries).Nodup)
    (more : Reads (inTable name (nodes ++ entries.map leaf)) (['\n'].intercalate ms) q) :
    Reads (inTable name nodes) (['\n'].intercalate (ls ++ ms)) q := by
  induction h generalizing nodes with
  | nil => simpa using more
  | aside aside _ ih =>
    rw [List.cons_append, intercalate_cons]
    exact (following_tail _ ▸ ih nodes new more).aside aside (atLineEnd_following _)
  | @entry e es l ls entry _ ih =>
    have fresh : e.1 ∉ keysOf nodes := fun there =>
      (List.nodup_append.mp new).2.2 _ there _ (List.mem_cons_self) rfl
    have put : within? (insertAt? e.2 [e.1]) [name] (inTable name nodes).entries =
        some (inTable name (nodes ++ [leaf e])).entries := by
      simp [within?, alter?, inTable, insertAt?_of_new e.2 fresh, leaf]
    have later := ih (nodes ++ [leaf e]) (by simpa [keysOf, leaf] using new)
      (by simpa using more)
    rw [List.cons_append, intercalate_cons]
    exact (following_tail _ ▸ later).entry entry (atLineEnd_following _) put

/-- The lines of a table put it at the beginning of a file. -/
theorem SpellsTable.reads (h : SpellsTable name entries ls) (distinct : (keysOf entries).Nodup)
    (more : Reads (inTable name (entries.map leaf)) (['\n'].intercalate ms) q) :
    Reads {} (['\n'].intercalate (ls ++ ms)) q := by
  induction h with
  | aside aside _ ih =>
    rw [List.cons_append, intercalate_cons]
    exact (following_tail _ ▸ ih).aside aside (atLineEnd_following _)
  | header header read =>
    have opened : openTable? [name] [] = some (inTable name []).entries := rfl
    have later := read.reads [] (by simpa [keysOf] using distinct) more
    rw [List.cons_append, intercalate_cons]
    exact (following_tail _ ▸ later).header header (atLineEnd_following _) opened

theorem SpellsTable.starts (h : SpellsTable name entries ls) (ms : List (List Char)) :
    StartsTable (['\n'].intercalate (ls ++ ms)) := by
  suffices ∃ ds, skipBlank? (['\n'].intercalate (ls ++ ms)) = some ('[' :: ds) by
    obtain ⟨ds, skip⟩ := this
    intro ds' skip'
    rw [skip] at skip'
    exact .inr (by simp [← Option.some.inj skip'])
  induction h with
  | aside aside _ ih =>
    obtain ⟨ds, skip⟩ := ih
    rw [List.cons_append, intercalate_cons]
    exact ⟨ds, aside.skipBlank? (atLineEnd_following _) (following_tail _ ▸ skip)⟩
  | header header _ =>
    obtain ⟨indent, before, key, after, aside⟩ := header
    rw [List.cons_append, intercalate_cons, List.append_assoc, List.cons_append]
    exact ⟨_, skipBlank?_of_opens indent (by simp [Opens, isSpace]) _⟩

/-! ### Files of tables -/

/-- The mark that a text may start with does not stand before a header. -/
theorem StartsTable.noMark (h : StartsTable cs) : cs.head? ≠ some '\ufeff' := by
  intro mark
  obtain ⟨ds, rfl⟩ := List.head?_eq_some_iff.mp mark
  have skip := skipBlank?_of_opens (c := '\ufeff') space_nil (by simp [Opens, isSpace]) ds
  rcases h _ skip with none | bracket
  · cases none
  · cases bracket

theorem StartsTable.parse?_eq_some_iff (h : StartsTable cs) {ts : List (String × Value)} :
    Toml.parse? (String.ofList cs) = some ts ↔
      ∃ q, Reads {} cs q ∧ entryValues false q.entries = ts := by
  have noMark := h.noMark
  simp only [Toml.parse?, String.toList_ofList]
  split
  · exact absurd rfl noMark
  rw [Option.map_eq_some_iff]
  constructor
  · rintro ⟨q, read, value⟩
    exact ⟨q, reads_of_readFile? (Nat.le_refl _) read, value⟩
  · rintro ⟨q, read, value⟩
    exact ⟨q, read _ (Nat.lt_succ_self _), value⟩

theorem keysOf_entryValues (closed : Bool) (es : Entries) :
    keysOf (entryValues closed es) = keysOf es := by
  induction es with
  | nil => rfl
  | cons e es ih =>
    rw [entryValues, entryValue.eq_def, keysOf, keysOf, List.map_cons, List.map_cons]
    exact congrArg _ ih

theorem entryValues_leaf (closed : Bool) (entries : List (String × Value)) :
    entryValues closed (entries.map leaf) = entries := by
  induction entries with
  | nil => rfl
  | cons e entries ih =>
    rw [List.map_cons, entryValues, ih]
    rfl

/-- **A table and what follows.** A file that starts with a table, of keys that differ from each
other, gives it its entries; and the text behind it, if it starts with a header and does not name
this table again, gives what it gives by itself. -/
theorem SpellsTable.parse? (h : SpellsTable name entries ls) (distinct : (keysOf entries).Nodup)
    {ts : List (String × Value)} (starts : StartsTable (['\n'].intercalate ms))
    (more : Toml.parse? (fileOf ms) = some ts) (new : name ∉ keysOf ts) :
    Toml.parse? (fileOf (ls ++ ms)) = some ((name, .table false entries) :: ts) := by
  obtain ⟨q, read, rfl⟩ := starts.parse?_eq_some_iff.mp more
  rw [keysOf_entryValues] at new
  obtain ⟨header, beside⟩ := read.beside starts [name] new (e := (name, .table .header _))
  refine (h.starts ms).parse?_eq_some_iff.mpr ⟨_, h.reads distinct beside, ?_⟩
  rw [entryValues, entryValue, Node.toValue, entryValues_leaf]

/-- Tables of different names, each of different keys, are what a file of their lines gives. -/
theorem SpellsTables.parse? {ts : List (String × List (String × Value))} (h : SpellsTables ts ls)
    (names : (keysOf ts).Nodup) (keys : ∀ t ∈ ts, (keysOf t.2).Nodup) :
    StartsTable (['\n'].intercalate ls) ∧
      Toml.parse? (fileOf ls) = some (ts.map fun t => (t.1, .table false t.2)) := by
  induction h with
  | nil => exact ⟨fun ds skip => .inl (Option.some.inj skip).symm, rfl⟩
  | @table name es ts ls ms table _ ih =>
    obtain ⟨new, names⟩ := List.nodup_cons.mp names
    obtain ⟨distinct, keys⟩ := List.forall_mem_cons.mp keys
    obtain ⟨starts, more⟩ := ih names keys
    have other : name ∉ keysOf (ts.map fun t => (t.1, Value.table false t.2)) := by
      simpa [keysOf] using new
    exact ⟨table.starts ms, table.parse? distinct starts more other⟩

end Toml
end RecordSync
