import RecordSync.Proofs.Config.Layering
import RecordSync.Proofs.Config.VariableLines

/-!
# Variables that are set already stay

The variables of a run are those of the process and, of those that are not set there, the ones that
the two files of variables define, each name by its first definition. So what a later line says of a
name makes no difference, and neither does it when the first value of the name is blank: such a
variable is set for the files, and not set for the settings, which then come from the next layer.

Key definitions: `Config.firstValue`, `Config.Sources.ofLines`, `Config.Settled`.
Key theorems: `Config.Environment.foldl_define`, `Config.load_ofLines`,
`Config.firstValue_replace`, `Config.resolve_of_blank`, `Config.earlier_definitions_stay`.
-/
namespace RecordSync
namespace Config

open Dotenv

variable {name : String} {process env : Environment} {a b ls ls' : List Line}
  {path : String} {file : FileState} {address : Option String}

/-! ### First definitions -/

/-- The value that a name has in the process, or else in the first line that defines it. -/
def firstValue (process : Environment) (ls : List Line) : Environment := fun name =>
  (process name).or ((ls.filterMap Line.definition?).lookup name)

theorem Environment.define_plain (env : Environment) (d : String × String) :
    env.define (plainDefinition d) = fun name => (env name).or ([d].lookup name) := by
  have text : env.expand (plainDefinition d).value = d.2 := by
    simp [Environment.expand, plainDefinition, List.flatMap_map]
  have named : (plainDefinition d).name = d.1 := rfl
  funext name
  rw [Environment.define, named, text]
  by_cases same : name = d.1
  · subst same
    cases set : env d.1 <;> simp [set, List.lookup]
  · have other : [d].lookup name = none := by simp [List.lookup, beq_eq_false_iff_ne.mpr same]
    cases env d.1 <;> simp [same, other]

/-- Definitions without references, one after the other, give each name its first value, unless it
is set before. -/
theorem Environment.foldl_define (env : Environment) (ds : List (String × String)) :
    (ds.map plainDefinition).foldl Environment.define env =
      fun name => (env name).or (ds.lookup name) := by
  induction ds generalizing env with
  | nil => simp
  | cons d ds ih =>
    rw [List.map_cons, List.foldl_cons, env.define_plain, ih]
    funext name
    rw [Option.or_assoc, ← List.lookup_append, List.singleton_append]

theorem Environment.load_fileOf (env : Environment) (ls : Option (List Line)) :
    env.load (ls.map fileOf) = firstValue env (ls.getD []) := by
  unfold firstValue
  rw [← env.foldl_define, Environment.load]
  cases ls with
  | none => rfl
  | some ls => rw [Option.map_some, Option.getD_some, definitions_fileOf, Option.getD_some]

theorem firstValue_append (env : Environment) (ls ls' : List Line) :
    firstValue env (ls ++ ls') = firstValue (firstValue env ls) ls' := by
  funext name
  simp only [firstValue, List.filterMap_append, List.lookup_append, Option.or_assoc]

/-- Sources with files of variables, if there are any, of given lines. -/
def Sources.ofLines (process : Environment) (working home : Option (List Line)) (path : String)
    (file : FileState) : Sources where
  process := process
  workingVariables := working.map fileOf
  homeVariables := home.map fileOf
  path := path
  file := file

theorem load_ofLines (working home : Option (List Line)) :
    (Sources.ofLines process working home path file).load address =
      resolve path file (firstValue process (working.getD [] ++ home.getD [])) address := by
  rw [Sources.load, Sources.environment, Sources.ofLines, Environment.load_fileOf,
    Environment.load_fileOf, firstValue_append]

/-! ### Later definitions -/

/-- A name has a value in the process or by a line. -/
def Settled (process : Environment) (ls : List Line) (name : String) : Prop :=
  process name ≠ none ∨ ∃ l ∈ ls, ∃ value, l.definition? = some (name, value)

/-- A line defines no other name. -/
def DefinesOnly (name : String) (l : Line) : Prop := ∀ d, l.definition? = some d → d.1 = name

theorem firstValue_ne_none (settled : Settled process ls name) :
    firstValue process ls name ≠ none := by
  rw [firstValue, ne_eq, Option.or_eq_none_iff, List.lookup_eq_none_iff]
  rintro ⟨unset, undefined⟩
  rcases settled with set | ⟨l, hl, value, defines⟩
  · exact set unset
  · simpa using undefined _ (List.mem_filterMap.mpr ⟨l, hl, defines⟩)

/-- Lines that speak of a settled name only may be replaced. -/
theorem firstValue_replace (settled : Settled process a name)
    (only : ∀ l ∈ ls ++ ls', DefinesOnly name l) :
    firstValue process (a ++ ls ++ b) = firstValue process (a ++ ls' ++ b) := by
  have skipped (ls : List Line) (only : ∀ l ∈ ls, DefinesOnly name l) :
      firstValue (firstValue process a) ls = firstValue process a := by
    funext other
    by_cases same : other = name
    · subst same
      obtain ⟨v, hv⟩ := Option.ne_none_iff_exists'.mp (firstValue_ne_none settled)
      rw [firstValue, hv, Option.some_or]
    · have undefined : (ls.filterMap Line.definition?).lookup other = none := by
        rw [List.lookup_eq_none_iff]
        intro d hd
        obtain ⟨l, hl, defines⟩ := List.mem_filterMap.mp hd
        simpa [only l hl d defines] using same
      rw [firstValue, undefined, Option.or_none]
  rw [List.forall_mem_append] at only
  rw [firstValue_append, firstValue_append _ a, skipped ls only.1, firstValue_append _ _ b,
    firstValue_append _ a, skipped ls' only.2]

/-! ### Blank values -/

/-- A variable whose value is blank counts as one that is not set. -/
theorem resolve_of_blank {raw : String} (set : env name = some raw) (blank : Text.trim raw = "") :
    resolve path file env address =
      resolve path file (fun other => if other = name then none else env other) address := by
  have alike (base : Config) :
      base.mergeEnv env = base.mergeEnv fun other => if other = name then none else env other := by
    refine mergeEnv_congr base fun other _ value => ?_
    by_cases same : other = name
    · subst same
      simp only [SetTo, if_true, set]
      refine ⟨fun h => absurd h.1 (by simp), fun h => ?_⟩
      obtain rfl := Option.some.inj h.1
      exact absurd blank h.2
    · simp only [SetTo, if_neg same]
  simp only [resolve, alike]

/-- **What is set already stays.** For files of variables made of blank lines, comments and
definitions without escapes and references, the settings of a run are those of the settings file,
the address that is given, and variables that have the value of the process, or else of the first
line that defines them, in the working directory's file and then in the other one. So lines that
speak of a name which is settled before, even by an empty value, may be changed or left out; and a
name whose first value is blank counts as not set at all. -/
theorem earlier_definitions_stay (process : Environment) (path : String) (file : FileState)
    (address : Option String) :
    (∀ working home : Option (List Line),
      (Sources.ofLines process working home path file).load address =
        resolve path file (firstValue process (working.getD [] ++ home.getD [])) address) ∧
    (∀ (name : String) (a ls ls' b : List Line) (home : Option (List Line)),
      Settled process a name → (∀ l ∈ ls ++ ls', DefinesOnly name l) →
        (Sources.ofLines process (some (a ++ ls ++ b)) home path file).load address =
          (Sources.ofLines process (some (a ++ ls' ++ b)) home path file).load address) ∧
    (∀ (name : String) (working : Option (List Line)) (a ls ls' b : List Line),
      Settled process (working.getD [] ++ a) name → (∀ l ∈ ls ++ ls', DefinesOnly name l) →
        (Sources.ofLines process working (some (a ++ ls ++ b)) path file).load address =
          (Sources.ofLines process working (some (a ++ ls' ++ b)) path file).load address) ∧
    ∀ (working home : Option (List Line)) (name raw : String),
      firstValue process (working.getD [] ++ home.getD []) name = some raw → Text.trim raw = "" →
        (Sources.ofLines process working home path file).load address =
          resolve path file (fun other => if other = name then none
            else firstValue process (working.getD [] ++ home.getD []) other) address := by
  refine ⟨load_ofLines, fun name a ls ls' b home settled only => ?_,
    fun name working a ls ls' b settled only => ?_, fun working home name raw set blank => ?_⟩
  · have same := firstValue_replace settled only (b := b ++ home.getD [])
    rw [load_ofLines, load_ofLines, Option.getD_some, Option.getD_some, List.append_assoc _ b, same,
      List.append_assoc _ b]
  · have same := firstValue_replace settled only (b := b)
    simp only [List.append_assoc] at same
    simp only [load_ofLines, Option.getD_some, List.append_assoc, same]
  · rw [load_ofLines, resolve_of_blank set blank]

/-- An address that the process sets to nothing, and that a file sets in vain; a number that is set
three times, of which the first counts. -/
theorem earlier_definitions_stay_of_empty_address :
    let process : Environment := fun name => [("KEEPSYNC_DATABASE_URL", "")].lookup name
    let later : Line := .marked "KEEPSYNC_DATABASE_URL" "in vain" (by decide) (by decide)
    let seven : Line := .bare "KEEPSYNC_MAX_CONNECTIONS" "7" (by decide) (by decide)
    let eight : Line := .bare "KEEPSYNC_MAX_CONNECTIONS" "8" (by decide) (by decide)
    let comment : Line := .comment [] " it's".toList nofun (by decide)
    let address : Line := .marked "DATABASE_URL" "a # b" (by decide) (by decide)
    let ofLines (working home : List Line) : Sources :=
      .ofLines process (some working) (some home) "config.toml" .absent
    fileOf [comment, later, seven, eight] = "# it's\nKEEPSYNC_DATABASE_URL=\x22in vain\x22\n" ++
      "KEEPSYNC_MAX_CONNECTIONS=7\nKEEPSYNC_MAX_CONNECTIONS=8" ∧
    (ofLines [comment, later, seven, eight] [eight, address]).load none =
      .ok { databaseUrl := "a # b", maxConnections := 7 } ∧
    (ofLines [comment, later, seven] [eight, address]).load none =
      .ok { databaseUrl := "a # b", maxConnections := 7 } ∧
    (ofLines [comment, later, seven] [address]).load none =
      .ok { databaseUrl := "a # b", maxConnections := 7 } := by
  intro process later seven eight comment address ofLines
  obtain ⟨load, inWorking, inHome, blank⟩ :=
    earlier_definitions_stay process "config.toml" .absent none
  have settled (ls : List Line) : Settled process ([comment, later, seven] ++ ls)
      "KEEPSYNC_MAX_CONNECTIONS" :=
    .inr ⟨seven, by simp, "7", rfl⟩
  have only : ∀ l ∈ [eight] ++ [], DefinesOnly "KEEPSYNC_MAX_CONNECTIONS" l := by
    intro l hl d defined
    obtain rfl := List.mem_singleton.mp hl
    obtain rfl := Option.some.inj defined
    rfl
  have all : (ofLines [comment, later, seven, eight] [eight, address]).load none =
      .ok { databaseUrl := "a # b", maxConnections := 7 } := by
    rw [blank (some [comment, later, seven, eight]) (some [eight, address])
      "KEEPSYNC_DATABASE_URL" "" (by decide) (by decide)]
    decide
  have once := inWorking "KEEPSYNC_MAX_CONNECTIONS" [comment, later, seven] [eight] [] []
    (some [eight, address]) (settled []) only
  have alone := inHome "KEEPSYNC_MAX_CONNECTIONS" (some [comment, later, seven]) [] [eight] []
    [address] (settled []) only
  exact ⟨by decide, all, once.symm.trans all, alone.symm.trans (once.symm.trans all)⟩

end Config
end RecordSync
