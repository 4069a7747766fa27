import Mathlib
import RecordSync.Config.Dotenv

/-!
# Lines of a file of variables

A file of variables that is made of blank lines, comments and definitions without any escape or
reference defines what stands there, line by line. The reader goes over the text twice: it finds
where lines end, which takes marks and comments into account, and then reads each line. A line of
one of these forms leaves the first reader in a place from which only the end of the line leads on,
and what it keeps of the line is what the second reader takes for the definition.

Key definitions: `Dotenv.Line`, `Dotenv.Line.chars`, `Dotenv.Line.definition?`, `Dotenv.fileOf`,
`Dotenv.Closes`.
Key theorems: `Dotenv.readLine?_definition`, `Dotenv.Line.exists_closes`,
`Dotenv.definitions_fileOf`.
-/
namespace RecordSync
namespace Dotenv

/-! ### Lines -/

/-- Whether a text is a name that can be defined. -/
def isName : List Char → Bool
  | [] => false
  | c :: cs => startsName c && cs.all isNameChar

/-- Whether a character may stand in a value without marks. -/
def isBare (c : Char) : Bool :=
  !Text.isBlank c && c ∉ ['\x22', '\x27', '\\', '$', '#']

/-- Whether a character may stand in a value between marks. -/
def isMarked (c : Char) : Bool := c ∉ ['\x22', '\\', '$']

/-- A line without escapes and references. -/
inductive Line where
  | blank (space : List Char) (proper : ∀ c ∈ space, Text.isBlank c = true ∧ c ≠ '\n')
  | comment (space text : List Char) (indent : ∀ c ∈ space, Text.isBlank c = true ∧ c ≠ '\n')
    (proper : '\n' ∉ text)
  /-- A definition with a value as it is. -/
  | bare (name value : String) (named : isName name.toList = true)
    (proper : value.toList.all isBare = true)
  /-- A definition with a value between marks. -/
  | marked (name value : String) (named : isName name.toList = true)
    (proper : value.toList.all isMarked = true)

/-- The text of a line. -/
def Line.chars : Line → List Char
  | .blank space _ => space
  | .comment space text _ _ => space ++ '#' :: text
  | .bare name value _ _ => name.toList ++ '=' :: value.toList
  | .marked name value _ _ => name.toList ++ '=' :: '\x22' :: (value.toList ++ ['\x22'])

/-- The name and the value that a line defines. -/
def Line.definition? : Line → Option (String × String)
  | .blank _ _ => none
  | .comment _ _ _ _ => none
  | .bare name value _ _ => some (name, value)
  | .marked name value _ _ => some (name, value)

/-- A file of lines. -/
def fileOf (ls : List Line) : String := String.ofList (['\n'].intercalate (ls.map Line.chars))

/-- A definition whose value stands for itself. -/
def plainDefinition (d : String × String) : Definition := ⟨d.1, d.2.toList.map .char⟩

/-! ### Characters -/

variable {c : Char} {cs n v w read rest : List Char} {spot : Spot}

/-- Whether a character outside marks means nothing for where the line ends. -/
def isQuiet (c : Char) : Bool := !Text.isBlank c && c ∉ ['\x22', '\x27', '\\', '#']

theorem isNameChar_range (h : isNameChar c = true) :
    (0x2E ≤ c.toNat ∧ c.toNat ≤ 0x7A) ∧ c.toNat ≠ 0x3D ∧ c.toNat ≠ 0x5C := by
  have value : c.val.toNat = c.toNat := rfl
  simp [isNameChar, Char.isAlphanum, Char.isAlpha, Char.isUpper, Char.isLower, Char.isDigit,
    UInt32.le_iff_toNat_le, value] at h
  rcases h with ((letter | digit) | rfl) | rfl
  · omega
  · omega
  · decide
  · decide

theorem isNameChar_of_startsName (h : startsName c = true) : isNameChar c = true := by
  simp only [startsName, isNameChar, Char.isAlphanum, Bool.or_eq_true] at h ⊢
  tauto

theorem isQuiet_of_isNameChar (h : isNameChar c = true) : isQuiet c = true := by
  have range := isNameChar_range h
  have solid : Text.isBlank c = false := by
    simp [Text.isBlank, Text.blankRanges]
    omega
  have others : c ∉ ['\x22', '\x27', '\\', '#'] := by
    simp [← Char.toNat_inj]
    omega
  simp [isQuiet, solid, others]

theorem isQuiet_of_isBare (h : isBare c = true) : isQuiet c = true := by
  simp only [isBare, isQuiet, Bool.and_eq_true, decide_eq_true_eq, List.mem_cons, not_or] at h ⊢
  tauto

theorem isBlank_of_isQuiet (h : isQuiet c = true) : Text.isBlank c = false := by
  simp only [isQuiet, Bool.and_eq_true, Bool.not_eq_true'] at h
  exact h.1

/-- All characters of a name are such. -/
theorem isNameChar_of_isName (h : isName n = true) : ∀ c ∈ n, isNameChar c = true := by
  cases n with
  | nil => cases h
  | cons c cs =>
    simp only [isName, Bool.and_eq_true, List.all_eq_true] at h
    exact List.forall_mem_cons.mpr ⟨isNameChar_of_startsName h.1, h.2⟩

theorem exists_cons_of_isName (h : isName n = true) : ∃ c cs, n = c :: cs := by
  cases n with
  | nil => cases h
  | cons c cs => exact ⟨c, cs, rfl⟩

/-! ### Finding the end of a line -/

/-- A character that neither starts a comment nor ends the line is read. -/
theorem linesFrom_step (comment : c = '#' → startsComment read spot = false)
    (lineEnd : c = '\n' → spot.next c ≠ .plain) :
    linesFrom (.within read spot) (c :: cs) = linesFrom (.within (c :: read) (spot.next c)) cs := by
  rw [linesFrom, if_neg, if_neg]
  · exact fun h => lineEnd h.1 h.2
  · exact fun h => by simp [comment h.1] at h

theorem linesFrom_quiet (quiet : ∀ c ∈ cs, isQuiet c = true) :
    linesFrom (.within read .plain) (cs ++ rest) =
      linesFrom (.within (cs.reverse ++ read) .plain) rest := by
  induction cs generalizing read with
  | nil => rfl
  | cons c cs ih =>
    obtain ⟨first, more⟩ := List.forall_mem_cons.mp quiet
    have next : Spot.plain.next c = .plain := by
      simp [isQuiet] at first
      simp [Spot.next, Spot.outside, first]
    rw [List.cons_append, linesFrom_step (by rintro rfl; cases first)
      (by rintro rfl; cases first), next, ih more, List.reverse_cons, List.append_assoc,
      List.singleton_append]

/-- Between double marks nothing ends the line, if the line has begun. -/
theorem linesFrom_marked (begun : read.all Text.isBlank = false)
    (marked : ∀ c ∈ cs, isMarked c = true) :
    linesFrom (.within read .double) (cs ++ rest) =
      linesFrom (.within (cs.reverse ++ read) .double) rest := by
  induction cs generalizing read with
  | nil => rfl
  | cons c cs ih =>
    obtain ⟨first, more⟩ := List.forall_mem_cons.mp marked
    have next : Spot.double.next c = .double := by
      simp [isMarked] at first
      simp [Spot.next, first]
    have begun' : (c :: read).all Text.isBlank = false := by simp [begun]
    rw [List.cons_append, linesFrom_step (fun _ => by simp [startsComment, begun])
      (fun _ => by simp [next]), next, ih begun' more, List.reverse_cons, List.append_assoc,
      List.singleton_append]

/-- A value between marks is read with its marks. -/
theorem linesFrom_between (begun : read.all Text.isBlank = false)
    (marked : ∀ c ∈ v, isMarked c = true) :
    linesFrom (.within read .plain) ('\x22' :: (v ++ '\x22' :: rest)) =
      linesFrom (.within ('\x22' :: (v.reverse ++ '\x22' :: read)) .plain) rest := by
  have opens : Spot.plain.next '\x22' = .double := by decide
  have closes : Spot.double.next '\x22' = .plain := by decide
  have begun' : ('\x22' :: read).all Text.isBlank = false := by simp [begun]
  have noComment : '\x22' ≠ '#' := by decide
  have sameLine : '\x22' ≠ '\n' := by decide
  rw [linesFrom_step (absurd · noComment) (absurd · sameLine), opens,
    linesFrom_marked begun' marked, linesFrom_step (absurd · noComment) (absurd · sameLine), closes]

/-- After white space a line is as good as new. -/
theorem linesFrom_space (read : List Char)
    (blank : ∀ c ∈ cs, Text.isBlank c = true ∧ c ≠ '\n')
    (at_start : spot = .plain ∨ spot = .blank) :
    ∃ spot', (spot' = .plain ∨ spot' = .blank) ∧ ∀ rest,
      linesFrom (.within read spot) (cs ++ rest) =
        linesFrom (.within (cs.reverse ++ read) spot') rest := by
  induction cs generalizing read spot with
  | nil => exact ⟨spot, at_start, fun _ => rfl⟩
  | cons c cs ih =>
    obtain ⟨⟨first, sameLine⟩, more⟩ := List.forall_mem_cons.mp blank
    have plain : Spot.outside c = .plain := by
      unfold Spot.outside
      rw [if_neg, if_neg, if_neg] <;> rintro rfl <;> cases first
    have next : spot.next c = .plain ∨ spot.next c = .blank := by
      rcases at_start with rfl | rfl
      · simp only [Spot.next, plain]
        split <;> simp
      · simp only [Spot.next, plain, true_or]
    obtain ⟨spot', place, reads⟩ := ih (c :: read) more next
    refine ⟨spot', place, fun rest => ?_⟩
    rw [List.cons_append, linesFrom_step (by rintro rfl; cases first)
      (fun h => absurd h sameLine), reads, List.reverse_cons, List.append_assoc,
      List.singleton_append]

theorem linesFrom_comment (sameLine : '\n' ∉ cs) :
    linesFrom (.comment read) (cs ++ rest) = linesFrom (.comment read) rest := by
  induction cs with
  | nil => rfl
  | cons c cs ih =>
    rw [List.mem_cons, not_or] at sameLine
    rw [List.cons_append, linesFrom, if_neg fun h => sameLine.1 h.symm, ih sameLine.2]

/-! ### Reading a definition -/

theorem readFrom?_bare (bare : ∀ c ∈ v, isBare c = true) :
    readFrom? (.plain false) v = some (v.map .char) := by
  induction v with
  | nil => rfl
  | cons c v ih =>
    obtain ⟨first, more⟩ := List.forall_mem_cons.mp bare
    have kept : turn? false c = none := by
      simp [isBare] at first
      have noSpace : c ≠ ' ' := by
        rintro rfl
        cases first.1
      have noTab : c ≠ '\t' := by
        rintro rfl
        cases first.1
      simp [turn?, first, noSpace, noTab]
    rw [readFrom?, kept]
    simp [ih more]

theorem readFrom?_marked (marked : ∀ c ∈ v, isMarked c = true) :
    readFrom? (.plain true) (v ++ ['\x22']) = some (v.map .char) := by
  induction v with
  | nil => rfl
  | cons c v ih =>
    obtain ⟨first, more⟩ := List.forall_mem_cons.mp marked
    have kept : turn? true c = none := by
      simp [isMarked] at first
      simp [turn?, first]
    rw [List.cons_append, readFrom?, kept]
    simp [ih more]

theorem readDefined?_name (named : isName n = true) :
    readDefined? (n ++ '=' :: w) = some (String.ofList n, w) := by
  cases n with
  | nil => cases named
  | cons c cs =>
    simp only [isName, Bool.and_eq_true, List.all_eq_true] at named
    have stop : isNameChar '=' = false := by decide
    have sign : Text.trimFront ('=' :: w) = '=' :: w := rfl
    have name : readName? (c :: (cs ++ '=' :: w)) = some (String.ofList (c :: cs), '=' :: w) := by
      rw [readName?, if_pos named.1, List.takeWhile_append_of_pos named.2,
        List.dropWhile_append_of_pos named.2, List.takeWhile_cons_of_neg (by simp [stop]),
        List.dropWhile_cons_of_neg (by simp [stop]), List.append_nil, sign]
    simp [readDefined?, name, afterEquals?]

/-- A line is read as the definition that stands in it, if nothing is trimmed from its value. -/
theorem readLine?_definition {value : List Part} (named : isName n = true)
    (first : ∀ c ∈ w.head?, Text.isBlank c = false ∧ c ≠ '#')
    (last : ∀ c ∈ w.getLast?, Text.isBlank c = false) (read : readValue? w = some value) :
    readLine? (n ++ '=' :: w) = some (some ⟨String.ofList n, value⟩) := by
  have solid : ∀ c ∈ n, Text.isBlank c = false := fun c hc =>
    isBlank_of_isQuiet (isQuiet_of_isNameChar (isNameChar_of_isName named c hc))
  obtain ⟨c, cs, rfl⟩ := exists_cons_of_isName named
  have whole : Text.trimChars (c :: cs ++ '=' :: w) = c :: cs ++ '=' :: w := by
    refine Text.trimChars_eq_self (fun x hx => ?_) (fun x hx => ?_)
    · obtain rfl := Option.some.inj hx
      exact solid _ List.mem_cons_self
    · rw [List.getLast?_append_cons, List.getLast?_cons] at hx
      cases hw : w.getLast? with
      | none =>
        obtain rfl : '=' = x := by simpa [hw] using hx
        rfl
      | some y => exact last x (by simpa [hw] using hx)
  have unskipped : isSkipped (c :: cs ++ '=' :: w) = false := by
    have noComment := isQuiet_of_isNameChar (isNameChar_of_isName named c List.mem_cons_self)
    rw [List.cons_append, isSkipped, beq_eq_false_iff_ne]
    rintro rfl
    cases noComment
  have untrimmed : Text.trimFront w = w := Text.trimFront_eq_self fun x hx => (first x hx).1
  rw [readLine?, whole]
  simp only [unskipped, Bool.false_eq_true, if_false, readDefinition?, readDefined?_name named,
    untrimmed, bind, Option.bind]
  by_cases skipped : isSkipped w = true
  · cases w with
    | nil =>
      obtain rfl := Option.some.inj read
      rfl
    | cons d w => exact absurd (beq_iff_eq.mp skipped) (first d rfl).2
  · rw [if_neg skipped, read]
    rfl

theorem isQuiet_of_isName (named : isName n = true) : ∀ c ∈ n, isQuiet c = true :=
  fun c hc => isQuiet_of_isNameChar (isNameChar_of_isName named c hc)

theorem linesFrom_bareLine (named : isName n = true) (bare : ∀ c ∈ v, isBare c = true)
    (rest : List Char) : linesFrom .fresh (n ++ '=' :: v ++ rest) =
      linesFrom (.within (n ++ '=' :: v).reverse .plain) rest := by
  have quiet : ∀ c ∈ n ++ '=' :: v, isQuiet c = true :=
    List.forall_mem_append.mpr ⟨isQuiet_of_isName named,
      List.forall_mem_cons.mpr ⟨rfl, fun c hc => isQuiet_of_isBare (bare c hc)⟩⟩
  rw [Scan.fresh, linesFrom_quiet quiet, List.append_nil]

theorem readLine?_bareLine {name value : String} (named : isName name.toList = true)
    (bare : ∀ c ∈ value.toList, isBare c = true) :
    readLine? (name.toList ++ '=' :: value.toList) = some (plainDefinition (name, value)) := by
  have solid {c : Char} (hc : c ∈ value.toList) : Text.isBlank c = false :=
    isBlank_of_isQuiet (isQuiet_of_isBare (bare c hc))
  have noComment : ∀ c ∈ value.toList.head?, Text.isBlank c = false ∧ c ≠ '#' := by
    refine fun c hc => ⟨solid (List.mem_of_mem_head? hc), ?_⟩
    rintro rfl
    cases bare _ (List.mem_of_mem_head? hc)
  rw [readLine?_definition named noComment (fun c hc => solid (List.mem_of_mem_getLast? hc))
    (readFrom?_bare bare), String.ofList_toList]
  rfl

theorem linesFrom_markedLine (named : isName n = true) (marked : ∀ c ∈ v, isMarked c = true)
    (rest : List Char) : linesFrom .fresh (n ++ '=' :: '\x22' :: (v ++ ['\x22']) ++ rest) =
      linesFrom (.within (n ++ '=' :: '\x22' :: (v ++ ['\x22'])).reverse .plain) rest := by
  have quiet : ∀ c ∈ n ++ ['='], isQuiet c = true :=
    List.forall_mem_append.mpr ⟨isQuiet_of_isName named, List.forall_mem_singleton.mpr rfl⟩
  have begun : ((n ++ ['=']).reverse ++ []).all Text.isBlank = false := by
    simp [Text.isBlank, Text.blankRanges]
  have split : n ++ '=' :: '\x22' :: (v ++ ['\x22']) ++ rest =
      (n ++ ['=']) ++ '\x22' :: (v ++ '\x22' :: rest) := by simp
  rw [split, Scan.fresh, linesFrom_quiet quiet, linesFrom_between begun marked]
  simp

theorem readLine?_markedLine {name value : String} (named : isName name.toList = true)
    (marked : ∀ c ∈ value.toList, isMarked c = true) :
    readLine? (name.toList ++ '=' :: '\x22' :: (value.toList ++ ['\x22'])) =
      some (plainDefinition (name, value)) := by
  have opens : turn? false '\x22' = some (.plain true) := by decide
  have read : readValue? ('\x22' :: (value.toList ++ ['\x22'])) =
      some (value.toList.map .char) := by
    rw [readValue?, readFrom?, opens]
    exact readFrom?_marked marked
  have solid : Text.isBlank '\x22' = false := by decide
  have first : ∀ c ∈ ('\x22' :: (value.toList ++ ['\x22'])).head?,
      Text.isBlank c = false ∧ c ≠ '#' := by
    rintro c ⟨⟩
    decide
  have last : ∀ c ∈ ('\x22' :: (value.toList ++ ['\x22'])).getLast?,
      Text.isBlank c = false := by
    intro c hc
    obtain rfl : '\x22' = c := by simpa [List.getLast?_cons, List.getLast?_append] using hc
    exact solid
  rw [readLine?_definition named first last read, String.ofList_toList]
  rfl

/-! ### Reading a file -/

/-- The definitions of a line, as they are read. -/
def Line.definitions (l : Line) : List Definition := (l.definition?.map plainDefinition).toList

/-- The reader of lines has read a whole line with some definitions: it only waits for the end of
the line or of the file. -/
structure Closes (scan : Scan) (ds : List Definition) : Prop where
  atEnd : definitionsOf (linesFrom scan []) = ds
  atLine : ∀ rest, definitionsOf (linesFrom scan ('\n' :: rest)) =
    ds ++ definitionsOf (linesFrom .fresh rest)

theorem definitionsOf_cons_none (skipped : readLine? cs = some none) (ls : List (List Char)) :
    definitionsOf (cs :: ls) = definitionsOf ls := by
  rw [definitionsOf, skipped]

theorem definitionsOf_cons_some {d : Definition} (read : readLine? cs = some (some d))
    (ls : List (List Char)) : definitionsOf (cs :: ls) = d :: definitionsOf ls := by
  rw [definitionsOf, read]

theorem readLine?_blank (blank : ∀ c ∈ cs, Text.isBlank c = true) : readLine? cs = some none := by
  have nothing : Text.trimChars cs = [] := by
    rw [Text.trimChars, Text.trimFront_of_blank blank]
    rfl
  rw [readLine?, nothing]
  rfl

theorem closes_definition {d : Definition} (lines : readLine? read.reverse = some (some d)) :
    Closes (.within read .plain) [d] where
  atEnd := by rw [linesFrom, if_pos rfl, definitionsOf_cons_some lines, definitionsOf]
  atLine rest := by
    have ends : '\n' = '\n' ∧ Spot.plain.next '\n' = .plain := by decide
    have noComment : ¬('\n' = '#' ∧ startsComment read .plain = true) := fun h => by cases h.1
    rw [linesFrom, if_neg noComment, if_pos ends, definitionsOf_cons_some lines,
      List.singleton_append]

theorem closes_blank (blank : ∀ c ∈ read, Text.isBlank c = true)
    (place : spot = .plain ∨ spot = .blank) : Closes (.within read spot) [] where
  atEnd := by
    have skipped := readLine?_blank fun c hc => blank c (List.mem_reverse.mp hc)
    rcases place with rfl | rfl
    · rw [linesFrom, if_pos rfl, definitionsOf_cons_none skipped, definitionsOf]
    · rfl
  atLine rest := by
    have skipped := readLine?_blank fun c hc => blank c (List.mem_reverse.mp hc)
    have ends : '\n' = '\n' ∧ spot.next '\n' = .plain := by
      rcases place with rfl | rfl <;> decide
    have noComment : ¬('\n' = '#' ∧ startsComment read spot = true) := fun h => by cases h.1
    rw [linesFrom, if_neg noComment, if_pos ends, definitionsOf_cons_none skipped, List.nil_append]

theorem closes_comment (blank : ∀ c ∈ read, Text.isBlank c = true) : Closes (.comment read) [] where
  atEnd := by
    have skipped := readLine?_blank fun c hc => blank c (List.mem_reverse.mp hc)
    rw [linesFrom, definitionsOf_cons_none skipped, definitionsOf]
  atLine rest := by
    have skipped := readLine?_blank fun c hc => blank c (List.mem_reverse.mp hc)
    rw [linesFrom, if_pos rfl, definitionsOf_cons_none skipped, List.nil_append]

/-- A definition takes the reader of lines over its text, which is then read. -/
theorem exists_closes_of_read {d : Definition}
    (scanned : ∀ rest, linesFrom .fresh (cs ++ rest) = linesFrom (.within cs.reverse .plain) rest)
    (read : readLine? cs = some (some d)) :
    ∃ scan, Closes scan [d] ∧ ∀ rest, linesFrom .fresh (cs ++ rest) = linesFrom scan rest :=
  ⟨_, closes_definition (by rwa [List.reverse_reverse]), scanned⟩

/-- A line takes the reader to where only its end is waited for. -/
theorem Line.exists_closes (l : Line) : ∃ scan, Closes scan l.definitions ∧
    ∀ rest, linesFrom .fresh (l.chars ++ rest) = linesFrom scan rest := by
  cases l with
  | blank space proper =>
    obtain ⟨spot, place, reads⟩ := linesFrom_space [] proper (.inl rfl)
    refine ⟨_, closes_blank ?_ place, reads⟩
    simpa using fun c hc => (proper c hc).1
  | comment space text indent proper =>
    obtain ⟨spot, place, reads⟩ := linesFrom_space [] indent (.inl rfl)
    have blank : ∀ c ∈ space.reverse ++ [], Text.isBlank c = true := by
      simpa using fun c hc => (indent c hc).1
    have starts : startsComment (space.reverse ++ []) spot = true := by
      rw [startsComment, List.all_eq_true.mpr blank, Bool.or_true]
    refine ⟨_, closes_comment blank, fun rest => ?_⟩
    rw [chars, List.append_assoc, Scan.fresh, reads, List.cons_append, linesFrom,
      if_pos ⟨rfl, starts⟩, linesFrom_comment proper]
  | bare name value named proper =>
    rw [List.all_eq_true] at proper
    exact exists_closes_of_read (linesFrom_bareLine named proper) (readLine?_bareLine named proper)
  | marked name value named proper =>
    rw [List.all_eq_true] at proper
    exact exists_closes_of_read (linesFrom_markedLine named proper)
      (readLine?_markedLine named proper)

/-- A line that is not empty starts with white space, the mark of a comment or a name. -/
theorem Line.mem_head? (l : Line) (h : c ∈ l.chars.head?) :
    Text.isBlank c = true ∨ c = '#' ∨ isNameChar c = true := by
  have space {cs : List Char} (blank : ∀ c ∈ cs, Text.isBlank c = true ∧ c ≠ '\n')
      (h : c ∈ cs.head?) : Text.isBlank c = true := (blank c (List.mem_of_mem_head? h)).1
  have name {cs rest : List Char} (named : isName cs = true) (h : c ∈ (cs ++ rest).head?) :
      isNameChar c = true := by
    obtain ⟨d, ds, rfl⟩ := exists_cons_of_isName named
    obtain rfl := Option.some.inj h
    exact isNameChar_of_isName named _ List.mem_cons_self
  cases l with
  | blank cs proper => exact .inl (space proper h)
  | comment cs text indent proper =>
    cases cs with
    | nil => exact .inr (.inl (Option.some.inj h).symm)
    | cons d cs => exact .inl (space indent h)
  | bare n value named proper => exact .inr (.inr (name named h))
  | marked n value named proper => exact .inr (.inr (name named h))

theorem fileOf_cons (l l' : Line) (ls : List Line) :
    (fileOf (l :: l' :: ls)).toList = l.chars ++ '\n' :: (fileOf (l' :: ls)).toList := by
  simp [fileOf, List.intercalate]

theorem definitionsOf_fileOf (ls : List Line) :
    definitionsOf (linesFrom .fresh (fileOf ls).toList) =
      (ls.filterMap Line.definition?).map plainDefinition := by
  induction ls with
  | nil => rfl
  | cons l ls ih =>
    obtain ⟨scan, closes, reads⟩ := l.exists_closes
    have first : (List.filterMap Line.definition? (l :: ls)).map plainDefinition =
        l.definitions ++ (ls.filterMap Line.definition?).map plainDefinition := by
      rw [List.filterMap_cons, Line.definitions]
      cases l.definition? <;> rfl
    rw [first]
    cases ls with
    | nil =>
      have alone : (fileOf [l]).toList = l.chars ++ [] := by simp [fileOf]
      rw [alone, reads, closes.atEnd]
      simp
    | cons l' ls => rw [fileOf_cons, reads, closes.atLine, ih]

/-- No line starts with a byte order mark, and so no file of lines does. -/
theorem lines_fileOf (ls : List Line) :
    lines (fileOf ls).toList = linesFrom .fresh (fileOf ls).toList := by
  unfold lines
  split
  · rename_i cs h
    have mark : ¬(Text.isBlank '\ufeff' = true ∨ '\ufeff' = '#' ∨ isNameChar '\ufeff' = true) := by
      decide
    match ls with
    | [] => cases h
    | [l] =>
      have alone : (fileOf [l]).toList = l.chars := by simp [fileOf]
      rw [alone] at h
      exact absurd (l.mem_head? (by rw [h]; rfl)) mark
    | l :: l' :: ls =>
      rw [fileOf_cons] at h
      cases hl : l.chars with
      | nil => rw [hl] at h; cases h
      | cons c cs =>
        rw [hl] at h
        obtain rfl := (List.cons.inj h).1
        exact absurd (l.mem_head? (by rw [hl]; rfl)) mark
  · rfl

/-- **A file of lines defines what its lines define, in their order.** -/
theorem definitions_fileOf (ls : List Line) :
    definitions (fileOf ls) = (ls.filterMap Line.definition?).map plainDefinition := by
  rw [definitions, lines_fileOf, definitionsOf_fileOf]

end Dotenv
end RecordSync
