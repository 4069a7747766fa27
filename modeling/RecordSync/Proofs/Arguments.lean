import RecordSync.Cli.Arguments
import RecordSync.Proofs.Results

/-!
# Values of options

The value of an option is a word of the command line: the one that follows the name of the option,
or what stands behind the sign in the word of the name. While the words are read one by one, that is
so of every value that is accepted and of the one that waits to be.

Key definitions: `Cli.Names`, `Cli.Command.text?`, `Cli.Reading.Faithful`.
Key theorems: `Cli.Reading.Faithful.take`, `Cli.names_of_readArguments`.
-/
namespace RecordSync
namespace Cli

/-! ### Options and their values -/

/-- The word of an option, perhaps with its value. -/
def optionWord (option : String) : Option String → String
  | none => "--" ++ option
  | some value => "--" ++ option ++ "=" ++ value

/-- Words that give an option a value: it follows the name, or stands in one word with it. -/
def Names (option : String) (words : List String) (value : String) : Prop :=
  [optionWord option none, value] <:+: words ∨ optionWord option (some value) ∈ words

theorem Names.append {option value : String} {words : List String} (h : Names option words value)
    (before after : List String) : Names option (before ++ words ++ after) value := by
  rcases h with h | h
  · exact .inl (h.trans (List.infix_append _ _ _))
  · exact .inr (List.mem_append_left _ (List.mem_append_right _ h))

/-- One more word takes nothing away. -/
theorem Names.snoc {option value : String} {words : List String} (h : Names option words value)
    (word : String) : Names option (words ++ [word]) value := by
  simpa using h.append [] [word]

/-- A word that is an option has its name, and perhaps its value. -/
theorem word_of_option {word name : String} {value : Option String}
    (form : Word.ofString word = .option name value) : word = optionWord name value := by
  unfold Word.ofString at form
  split at form
  · cases form
  · rename_i cs _ hcs
    have parts := List.takeWhile_append_dropWhile (p := (· != '=')) (l := cs)
    have whole : word = String.ofList ('-' :: '-' :: cs) := by rw [← hcs, String.ofList_toList]
    rw [whole]
    unfold Word.ofOption at form
    cases hd : cs.dropWhile (· != '=') with
    | nil =>
      rw [hd, List.append_nil] at parts
      simp only [hd, Word.option.injEq] at form
      obtain ⟨rfl, rfl⟩ := form
      simp [optionWord, parts, ← String.toList_inj]
    | cons c rest =>
      have sign : c = '=' := by
        have := List.head?_dropWhile_not (· != '=') cs
        rw [hd] at this
        simpa using this
      rw [hd, sign] at parts
      simp only [hd, Word.option.injEq] at form
      obtain ⟨rfl, rfl⟩ := form
      simp [optionWord, ← String.toList_inj, parts]
  · cases form
  · cases form

theorem word_of_plain {word text : String} (form : Word.ofString word = .plain text) :
    word = text := by
  unfold Word.ofString at form
  split at form
  · cases form
  · cases form
  · cases form
  · exact Word.plain.inj form

/-- The text that is given for an argument, if it is kept as it stands. -/
def Given.text? (g : Given) : Param → Option String
  | .databaseUrl => g.databaseUrl
  | .passwordHash => g.passwordHash
  | .username => g.username
  | .user => g.user
  | .id => g.id
  | .table => none
  | .since => none

/-- The text that a command has for an argument. -/
def Command.text? : Command → Param → Option String
  | .addUser name _, .username => some name
  | .addUser _ hash, .passwordHash => some hash
  | .showUser name _, .username => some name
  | .listRecords _ user _ _ _, .user => some user
  | .deleteRecord _ user _, .user => some user
  | .deleteRecord _ _ id, .id => some id
  | _, _ => none

variable {p q : Param} {value v : String} {g g' : Given}

theorem Given.text?_put (h : g.put q value = .ok g') (given : g'.text? p = some v) :
    (p = q ∧ v = value) ∨ g.text? p = some v := by
  cases q with
  | table =>
    obtain ⟨t, -, rfl⟩ := map_eq_ok_iff.mp h
    exact .inr (by cases p <;> exact given)
  | since =>
    obtain ⟨t, -, rfl⟩ := map_eq_ok_iff.mp h
    exact .inr (by cases p <;> exact given)
  | _ =>
    cases h
    cases p <;> simp_all [text?]

theorem Given.text?_accept {value : Option String} (h : g.accept q value = .ok g')
    (given : g'.text? p = some v) : (p = q ∧ value = some v) ∨ g.text? p = some v := by
  cases value with
  | none => cases h
  | some value =>
    rw [accept] at h
    split at h
    · cases h
    · rcases text?_put h given with ⟨same, rfl⟩ | before
      · exact .inl ⟨same, rfl⟩
      · exact .inr before

theorem Given.text?_raise {l : Level} {f : Flag} (h : g.raise l f = .ok g') (p : Param) :
    g'.text? p = g.text? p := by
  cases f with
  | help => cases h
  | version => cases h
  | _ =>
    simp only [raise] at h
    split at h
    · cases h
    · cases h
      cases p <;> rfl

theorem Given.text?_command {a : Action} {c : Command} (h : g.command? a = some c)
    (given : c.text? p = some v) : g.text? p = some v := by
  cases a with
  | addUser =>
    simp only [command?, Option.bind_eq_bind, Option.bind_eq_some_iff, Option.some.injEq] at h
    obtain ⟨name, hname, hash, hhash, rfl⟩ := h
    cases p <;> simp_all [Command.text?, text?]
  | showUser =>
    simp only [command?, Option.bind_eq_bind, Option.bind_eq_some_iff, Option.some.injEq] at h
    obtain ⟨name, hname, rfl⟩ := h
    cases p <;> simp_all [Command.text?, text?]
  | listRecords =>
    simp only [command?, Option.bind_eq_bind, Option.bind_eq_some_iff, Option.some.injEq] at h
    obtain ⟨t, ht, user, huser, rfl⟩ := h
    cases p <;> simp_all [Command.text?, text?]
  | deleteRecord =>
    simp only [command?, Option.bind_eq_bind, Option.bind_eq_some_iff, Option.some.injEq] at h
    obtain ⟨t, ht, user, huser, id, hid, rfl⟩ := h
    cases p <;> simp_all [Command.text?, text?]
  | _ =>
    cases h
    cases given

/-! ### Reading words -/

namespace Reading

/-- The values that are known after some words are values that the words give. An option that waits
for its value is the last word; only behind a separator it may wait in vain. -/
structure Faithful (option : String) (p : Param) (words : List String) (r : Reading) : Prop where
  given : ∀ v, r.given.text? p = some v → Names option words v
  waiting : ∀ v, r.pending = some (p, some v) → Names option words v
  named : r.pending = some (p, none) → r.trailing = false →
    ∃ before, words = before ++ [optionWord option none]
  places : p ∉ r.places

variable {option word : String} {words : List String} {l : Level} {r r' : Reading}

/-- At the start nothing is known. -/
theorem faithful_start (name : p.optionName? = some option) (l : Level) :
    Faithful option p [] (start l) where
  given v h := by cases p <;> cases h
  waiting v h := nomatch h
  named h := nomatch h
  places h := by
    have positional := (List.mem_filter.mp h).2
    simp [Param.isPositional, name] at positional

/-- Accepting what waits leaves nothing waiting. -/
theorem Faithful.settle (faithful : Faithful option p words r) (h : r.settle = .ok r') :
    Faithful option p words r' ∧ r'.pending = none ∧ r'.places = r.places ∧
      r'.trailing = r.trailing := by
  unfold Reading.settle at h
  cases hp : r.pending with
  | none =>
    rw [hp] at h
    cases h
    exact ⟨faithful, hp, rfl, rfl⟩
  | some waits =>
    obtain ⟨q, value⟩ := waits
    rw [hp] at h
    obtain ⟨g, accepted, ⟨⟩⟩ := bind_eq_ok_iff.mp h
    refine ⟨⟨fun v given => ?_, nofun, nofun, faithful.places⟩, rfl, rfl, rfl⟩
    rcases Given.text?_accept accepted given with ⟨rfl, rfl⟩ | before
    · exact faithful.waiting v hp
    · exact faithful.given v before

/-- When nothing waits, one more word may be read. -/
theorem Faithful.snoc (faithful : Faithful option p words r) (nothing : r.pending = none)
    (word : String) : Faithful option p (words ++ [word]) r where
  given v h := (faithful.given v h).snoc word
  waiting v h := by
    rw [nothing] at h
    cases h
  named h := by
    rw [nothing] at h
    cases h
  places := faithful.places

theorem Faithful.takeFlag {f : Flag} (faithful : Faithful option p words r)
    (h : r.takeFlag l f = .ok r') (word : String) : Faithful option p (words ++ [word]) r' := by
  obtain ⟨r₁, done, h⟩ := bind_eq_ok_iff.mp h
  obtain ⟨g, raised, ⟨⟩⟩ := bind_eq_ok_iff.mp h
  obtain ⟨settled, nothing, -, -⟩ := faithful.settle done
  have read := settled.snoc nothing word
  exact ⟨fun v given => read.given v (Given.text?_raise raised p ▸ given), read.waiting, read.named,
    read.places⟩

/-- A word that is known by its place is no value of an option. -/
theorem Faithful.takePlain (faithful : Faithful option p words r)
    (h : r.takePlain l word = .ok r') : Faithful option p (words ++ [word]) r' := by
  unfold Reading.takePlain at h
  cases hp : r.places with
  | nil =>
    rw [hp] at h
    cases h
  | cons q places =>
    rw [hp] at h
    obtain ⟨r₁, done, ⟨⟩⟩ := bind_eq_ok_iff.mp h
    obtain ⟨settled, nothing, -, -⟩ := faithful.settle done
    have read := settled.snoc nothing word
    have elsewhere : p ≠ q ∧ p ∉ places := by simpa [hp] using faithful.places
    refine ⟨read.given, fun v waits => ?_, nofun, elsewhere.2⟩
    exact absurd (congrArg Prod.fst (Option.some.inj waits)).symm elsewhere.1

/-- An option waits for its value, or has it in its own word. -/
theorem Faithful.takeOption {value : Option String} (faithful : Faithful option p words r)
    (h : r.takeOption q value = .ok r')
    (spelled : p = q → word = optionWord option value) :
    Faithful option p (words ++ [word]) r' := by
  obtain ⟨r₁, done, h⟩ := bind_eq_ok_iff.mp h
  obtain ⟨settled, nothing, -, -⟩ := faithful.settle done
  have read := settled.snoc nothing word
  have waits : Faithful option p (words ++ [word]) { r₁ with pending := some (q, value) } := by
    refine ⟨read.given, fun v waits => ?_, fun waits _ => ?_, read.places⟩
    · obtain ⟨rfl, rfl⟩ := Prod.mk.inj (Option.some.inj waits)
      rw [spelled rfl]
      exact .inr (List.mem_append_right _ List.mem_cons_self)
    · obtain ⟨rfl, rfl⟩ := Prod.mk.inj (Option.some.inj waits)
      rw [spelled rfl]
      exact ⟨words, rfl⟩
  cases value with
  | none =>
    cases h
    exact waits
  | some v => exact (waits.settle h).1

theorem Faithful.takeName {name : String} {value : Option String}
    (faithful : Faithful option p words r) (named : p.optionName? = some option)
    (h : r.takeName l name value = .ok r') (spelled : word = optionWord name value) :
    Faithful option p (words ++ [word]) r' := by
  unfold Reading.takeName at h
  cases hf : l.flag? name with
  | some f =>
    cases value with
    | none =>
      rw [hf] at h
      exact faithful.takeFlag h word
    | some v =>
      rw [hf] at h
      cases h
  | none =>
    cases ho : l.option? name with
    | none =>
      rw [hf, ho] at h
      cases h
    | some q =>
      rw [hf, ho] at h
      refine faithful.takeOption h ?_
      rintro rfl
      have found : p.optionName? = some name := by simpa using List.find?_some ho
      obtain rfl := Option.some.inj (named.symm.trans found)
      exact spelled

/-- **One word keeps the values faithful.** -/
theorem Faithful.take (faithful : Faithful option p words r) (named : p.optionName? = some option)
    (h : r.take l word = .ok r') : Faithful option p (words ++ [word]) r' := by
  unfold Reading.take at h
  split at h
  · exact faithful.takePlain h
  rename_i running
  have going : r.trailing = false := by simpa using running
  split at h
  · cases h
    exact ⟨fun v h => (faithful.given v h).snoc word, fun v h => (faithful.waiting v h).snoc word,
      nofun, faithful.places⟩
  · rename_i name value form
    exact faithful.takeName named h (word_of_option form)
  · rename_i letter form
    unfold Reading.takeShort at h
    split at h
    · exact faithful.takeFlag h word
    · cases h
  · rename_i text form
    obtain rfl := word_of_plain form
    split at h
    · rename_i q waits
      cases h
      refine ⟨fun v h => (faithful.given v h).snoc word, fun v h => ?_, nofun, faithful.places⟩
      obtain ⟨rfl, same⟩ := Prod.mk.inj (Option.some.inj h)
      obtain rfl := Option.some.inj same
      obtain ⟨before, rfl⟩ := faithful.named waits going
      exact .inl ⟨before, [], by simp⟩
    · exact faithful.takePlain h

end Reading

/-- A request has a text for an option only if the words that were read give it. -/
theorem names_of_readWords {option : String} {l : Level} {before words : List String} {r : Reading}
    {request : Request} (named : p.optionName? = some option)
    (faithful : r.Faithful option p before) (h : readWords l r words = .ok request)
    (text : request.command.text? p = some v) : Names option (before ++ words) v := by
  induction words generalizing l before r request with
  | nil =>
    rw [readWords, bind_eq_ok_iff] at h
    obtain ⟨r₁, done, h⟩ := h
    obtain ⟨settled, -⟩ := faithful.settle done
    rw [List.append_nil]
    refine settled.given v ?_
    cases l with
    | group g => cases h
    | action a =>
      simp only [Given.request] at h
      split at h
      · rename_i c complete
        cases h
        exact Given.text?_command complete text
      · cases h
  | cons word words ih =>
    rw [readWords] at h
    split at h
    · split at h
      · -- what is read within has a start of its own
        rename_i inner _
        obtain ⟨request', read, h⟩ := bind_eq_ok_iff.mp h
        obtain ⟨r₁, -, ⟨⟩⟩ := bind_eq_ok_iff.mp h
        have within := ih (Reading.faithful_start named inner) read text
        simpa using within.append (before ++ [word]) []
      · cases h
    · obtain ⟨r₁, taken, h⟩ := bind_eq_ok_iff.mp h
      have rest := ih (faithful.take named taken) h text
      rwa [List.append_assoc] at rest

/-- **The value of an option is taken from the command line as it stands there.** -/
theorem names_of_readArguments {option : String} {args : List String} {request : Request}
    (named : p.optionName? = some option) (h : readArguments args = .ok request)
    (text : request.command.text? p = some v) : Names option args v := by
  simpa using names_of_readWords named (Reading.faithful_start named (.group .top)) h text

end Cli
end RecordSync
