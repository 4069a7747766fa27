import RecordSync.Config.Basic
import RecordSync.Proofs.Json.Shapes
import RecordSync.Proofs.Results

/-!
# Members by position and by name

A typed record, a sync mark and the settings are each read from an object, which gives their members
by name, or from an array, which gives them by position in their declared order. All three leave the
reading of members to one function, and its laws are theirs: an array reads like the object that
gives the same values under the declared names, one with too many items is refused, and of an object
neither the order nor a member without a declared name counts. Where arrays may end early differs:
only the mark of a typed record may be left out, nothing of a mark, and anything of the settings.

Key definitions: `Json.ByPosition`, `Json.Gives`.
Key theorems: `Json.readMembers?_zip`, `Json.readMembers?_congr`, `Json.byPosition_of_bind`,
`Config.ofJson?_obj_eq_some_iff`, `Json.positions_read_like_names`.
-/
namespace RecordSync
namespace Json

variable {names : List String} {name : String} {least : Nat} {vs : List Json}
  {ms ms' : List (String × Json)} {β : Type}

/-! ### Members of an object -/

theorem member?_of_notMem (absent : name ∉ ms.map Prod.fst) : member? ms name = some none := by
  have others : ∀ m ∈ ms, ¬(m.1 == name) = true := fun m hm same =>
    absent (beq_iff_eq.mp same ▸ List.mem_map_of_mem hm)
  rw [member?, List.filter_eq_nil_iff.mpr others]

theorem member?_cons_self (v : Json) (absent : name ∉ ms.map Prod.fst) :
    member? ((name, v) :: ms) name = some (some v) := by
  have others : ∀ m ∈ ms, ¬(m.1 == name) = true := fun m hm same =>
    absent (beq_iff_eq.mp same ▸ List.mem_map_of_mem hm)
  have once : ((name, v) :: ms).filter (fun m => m.1 == name) = [(name, v)] := by
    rw [List.filter_cons, if_pos (beq_self_eq_true name), List.filter_eq_nil_iff.mpr others]
  rw [member?, once]

theorem member?_cons_of_ne {m : String × Json} (ne : m.1 ≠ name) :
    member? (m :: ms) name = member? ms name := by
  rw [member?, List.filter_cons_of_neg (by simpa using ne), member?]

/-- What is under other names, and the order, make no difference to a member. -/
theorem member?_congr (same : (ms.filter fun m => m.1 == name).Perm
    (ms'.filter fun m => m.1 == name)) : member? ms name = member? ms' name := by
  unfold member?
  generalize ms.filter _ = xs at same
  generalize ms'.filter _ = ys at same
  match xs with
  | [] => rw [← same.nil_eq]
  | [m] => rw [← List.singleton_perm.mp same]
  | m :: m' :: xs =>
    obtain ⟨y, y', ys, rfl⟩ : ∃ y y' zs, ys = y :: y' :: zs := by
      have length := same.length_eq
      match ys with
      | y :: y' :: ys => exact ⟨y, y', ys, rfl⟩
    rfl

/-- The order of members and the members without a declared name make no difference. -/
theorem readMembers?_congr (same : (ms.filter fun m => m.1 ∈ names).Perm
    (ms'.filter fun m => m.1 ∈ names)) :
    readMembers? names least (.obj ms) = readMembers? names least (.obj ms') := by
  refine mapM_congr fun name hn => member?_congr ?_
  have under (ms : List (String × Json)) : ms.filter (fun m => m.1 == name) =
      (ms.filter fun m => m.1 ∈ names).filter fun m => m.1 == name := by
    rw [List.filter_filter]
    refine List.filter_congr fun m _ => ?_
    by_cases h : m.1 = name <;> simp [h, hn]
  rw [under ms, under ms']
  exact same.filter _

/-- Values under the first of some names are read by these names as by their positions. -/
theorem mapM_member?_zip (nodup : names.Nodup) (fits : vs.length ≤ names.length) :
    names.mapM (member? (names.zip vs)) =
      some (vs.map some ++ List.replicate (names.length - vs.length) none) := by
  induction names generalizing vs with
  | nil =>
    obtain rfl := List.eq_nil_of_length_eq_zero (Nat.le_zero.mp fits)
    rfl
  | cons name names ih =>
    obtain ⟨fresh, nodup⟩ := List.nodup_cons.mp nodup
    cases vs with
    | nil =>
      have nothing : (name :: names).mapM (member? []) =
          some ((name :: names).map fun _ => none) := mapM_eq_some_map fun _ _ => rfl
      rw [List.zip_nil_right, nothing, List.map_const', List.map_nil, List.nil_append,
        List.length_nil, Nat.sub_zero]
    | cons v vs =>
      have later : names.mapM (member? ((name, v) :: names.zip vs)) =
          names.mapM (member? (names.zip vs)) :=
        mapM_congr fun other ho => member?_cons_of_ne fun same => fresh (by rwa [← same] at ho)
      have unrepeated : name ∉ (names.zip vs).map Prod.fst := fun h => by
        obtain ⟨m, hm, rfl⟩ := List.mem_map.mp h
        exact fresh (List.of_mem_zip hm).1
      rw [List.zip_cons_cons, List.mapM_cons, member?_cons_self v unrepeated, later,
        ih nodup (Nat.le_of_succ_le_succ fits)]
      simp

/-- An array is read like the object with its items under the declared names. -/
theorem readMembers?_zip (nodup : names.Nodup) (enough : least ≤ vs.length)
    (fits : vs.length ≤ names.length) :
    readMembers? names least (.arr vs) = readMembers? names least (.obj (names.zip vs)) := by
  simp only [readMembers?, enough, fits, and_self, if_true, mapM_member?_zip nodup fits]

theorem readMembers?_of_surplus (surplus : names.length < vs.length) :
    readMembers? names least (.arr vs) = none := by
  rw [readMembers?, if_neg fun h => Nat.not_le_of_gt surplus h.2]

/-! ### Readers of declared members -/

/-- A reader takes declared members by position as by name: from an array as from the object with
the same values under the names in their order, if there are `least` items or more; from no array
with more items than names; and from an object whatever the order of its members, and whatever else
is in it. -/
structure ByPosition (read : Json → Option β) (names : List String) (least : Nat) : Prop where
  likeNames : ∀ vs : List Json, least ≤ vs.length → vs.length ≤ names.length →
    read (.arr vs) = read (.obj (names.zip vs))
  surplus : ∀ vs : List Json, names.length < vs.length → read (.arr vs) = none
  unordered : ∀ ms ms' : List (String × Json),
    (ms.filter fun m => m.1 ∈ names).Perm (ms'.filter fun m => m.1 ∈ names) →
      read (.obj ms) = read (.obj ms')

/-- Whatever is made of the members that are read. -/
theorem byPosition_of_bind (nodup : names.Nodup) (f : List (Option Json) → Option β) :
    ByPosition (fun v => (v.readMembers? names least).bind f) names least where
  likeNames vs enough fits := by rw [readMembers?_zip nodup enough fits]
  surplus vs surplus := by rw [readMembers?_of_surplus surplus, Option.bind_none]
  unordered ms ms' same := by rw [readMembers?_congr same]

/-- What a member comes to that has a default: what it says if it is given, once, and the default if
it is absent. -/
inductive Gives (ms : List (String × Json)) (name : String) (default : β)
    (read : Json → Option β) : β → Prop
  | given {v : Json} {x : β} (once : ms.filter (fun m => m.1 == name) = [(name, v)])
    (said : read v = some x) : Gives ms name default read x
  | absent (absent : name ∉ ms.map Prod.fst) : Gives ms name default read default

theorem gives_iff {default x : β} {read : Json → Option β} : Gives ms name default read x ↔
    (member? ms name).bind (Config.memberOr default read) = some x := by
  constructor
  · rintro (⟨once, said⟩ | absent)
    · rw [member?, once]
      exact said
    · rw [member?_of_notMem absent]
      rfl
  · intro h
    unfold member? at h
    split at h
    · rename_i nothing
      have absent : name ∉ ms.map Prod.fst := fun hn => by
        obtain ⟨m, hm, rfl⟩ := List.mem_map.mp hn
        exact List.filter_eq_nil_iff.mp nothing m hm (beq_self_eq_true m.1)
      obtain rfl : default = x := Option.some.inj h
      exact .absent absent
    · rename_i m once
      have named : m ∈ ms.filter fun m => m.1 == name := by
        rw [once]
        exact List.mem_singleton_self m
      obtain rfl := beq_iff_eq.mp (List.mem_filter.mp named).2
      exact .given once h
    · cases h

end Json

theorem SyncMark.byPosition : Json.ByPosition SyncMark.ofJson? ["updated_at", "deleted"] 2 :=
  Json.byPosition_of_bind (by decide) _

theorem Config.byPosition : Json.ByPosition Config.ofJson? Config.memberNames 0 :=
  Json.byPosition_of_bind (by decide) _

theorem Shape.byPosition (α : Type) [Shape α] :
    Json.ByPosition (Shape.ofJson? : Json → Option α) (Shape.memberNames α)
      ((Shape.memberNames α).length - 1) :=
  Json.byPosition_of_bind (Shape.nodup_memberNames α) _

namespace Config

variable {ms : List (String × Json)} {c : Config}

/-- Each setting of an object is what its own member gives. -/
theorem ofJson?_obj_eq_some_iff : ofJson? (.obj ms) = some c ↔
    Json.Gives ms "database_url" "" Json.text? c.databaseUrl ∧
    Json.Gives ms "max_connections" 5 word32? c.maxConnections ∧
    Json.Gives ms "acquire_timeout_secs" 5 word64? c.acquireTimeout ∧
    Json.Gives ms "migrations_dir" none Json.optionalText? c.migrationsDir ∧
    Json.Gives ms "migration_policy" .bestEffort policy? c.migrationPolicy := by
  have members : ofJson? (.obj ms) = (memberNames.mapM (Json.member? ms)).bind ofMembers? := rfl
  simp only [Json.gives_iff, members, memberNames, List.mapM_cons, List.mapM_nil, bind, pure,
    Option.bind_eq_some_iff, Option.some.injEq, ↓existsAndEq, and_true]
  constructor
  · rintro ⟨url, connections, timeout, dir, policy, ⟨hu, hc, ht, hd, hp⟩, read⟩
    obtain ⟨ru, rc, rt, rd, rp⟩ := ofMembers?_eq_some_iff.mp read
    exact ⟨⟨url, hu, ru⟩, ⟨connections, hc, rc⟩, ⟨timeout, ht, rt⟩, ⟨dir, hd, rd⟩, policy, hp, rp⟩
  · rintro ⟨⟨url, hu, ru⟩, ⟨connections, hc, rc⟩, ⟨timeout, ht, rt⟩, ⟨dir, hd, rd⟩, policy, hp, rp⟩
    exact ⟨url, connections, timeout, dir, policy, ⟨hu, hc, ht, hd, hp⟩,
      ofMembers?_eq_some_iff.mpr ⟨ru, rc, rt, rd, rp⟩⟩

end Config

namespace Shape

variable {α : Type} [Shape α] {vs : List Json} {s s' : Json}

theorem length_memberNames (α : Type) [Shape α] :
    (memberNames α).length = (tableOf α).requiredColumns.length + 3 := by
  simp [memberNames_eq, tableOf]

theorem partsOfMembers?_congr_sync {count : Nat} {ms : List (Option Json)}
    (width : ms.length = count + 2) (same : SyncMark.ofJson? s = SyncMark.ofJson? s') :
    partsOfMembers? count (ms ++ [some s]) = partsOfMembers? count (ms ++ [some s']) := by
  obtain ⟨id, rest, rfl⟩ := List.exists_cons_of_length_pos (by omega : 0 < ms.length)
  -- Behind the id come `count` texts, and then metadata and the mark.
  have length : rest.length = count + 1 := by simpa using width
  have texts : count ≤ rest.length := by omega
  obtain ⟨metadata, behind⟩ : ∃ metadata, rest.drop count = [metadata] :=
    List.length_eq_one_iff.mp (by rw [List.length_drop]; omega)
  simp only [List.cons_append, partsOfMembers?, List.take_append_of_le_length texts,
    List.drop_append_of_le_length texts, behind, List.nil_append, syncOfJson?, same]

/-- The mark of a typed record counts only as the mark that it is read as. -/
theorem ofJson?_congr_sync (width : vs.length + 1 = (memberNames α).length)
    (same : SyncMark.ofJson? s = SyncMark.ofJson? s') :
    (ofJson? (.arr (vs ++ [s])) : Option α) = ofJson? (.arr (vs ++ [s'])) := by
  have full (s : Json) : Json.readMembers? (memberNames α)
      ((memberNames α).length - 1) (.arr (vs ++ [s])) =
        some (vs.map some ++ [some s]) := by
    have length : (vs ++ [s]).length = (memberNames α).length := by
      rw [List.length_append, List.length_singleton, width]
    simp [Json.readMembers?, length]
  rw [length_memberNames] at width
  have length : (vs.map some).length = (tableOf α).requiredColumns.length + 2 := by
    rw [List.length_map]
    omega
  simp only [ofJson?, full, partsOfMembers?_congr_sync length same, bind, Option.bind]

/-- The values of the members of a typed record, in their order, are read as that record. -/
theorem ofJson?_memberValues {x : α} (years : (parts x).sync.FourDigits) :
    ofJson? (.arr (memberValues (parts x))) = some x := by
  have length := length_memberValues x
  rw [(byPosition α).likeNames _ (by omega) (by omega), ← toJson, ofJson?_toJson years]

end Shape

namespace Json

/-- **Members by position and by name are read alike.** A typed record is read from an array of its
members, of which the mark at the end may be missing, as from the object with the same values under
the declared names; so is a mark, with both its members, and so are the settings, with any number of
them from the front. Within an array a mark may again be an array. No array with more items than
members is read, and of an object neither the order of its members nor what is under other names
counts. The values of a typed record's members, in their order, are read as that record, and a
setting that is absent from an object has its default. -/
theorem positions_read_like_names :
    (∀ (α : Type) [Shape α], ByPosition (Shape.ofJson? : Json → Option α)
      (Shape.memberNames α) ((Shape.memberNames α).length - 1)) ∧
    ByPosition SyncMark.ofJson? ["updated_at", "deleted"] 2 ∧
    ByPosition Config.ofJson? ["database_url", "max_connections", "acquire_timeout_secs",
      "migrations_dir", "migration_policy"] 0 ∧
    (∀ (α : Type) [Shape α] (vs : List Json) (u d : Json),
      vs.length + 1 = (Shape.memberNames α).length →
        (Shape.ofJson? (.arr (vs ++ [.arr [u, d]])) : Option α) =
          Shape.ofJson? (.obj ((Shape.memberNames α).zip
            (vs ++ [.obj [("updated_at", u), ("deleted", d)]])))) ∧
    (∀ (α : Type) [Shape α] (x : α), (Shape.parts x).sync.FourDigits →
      Shape.ofJson? (.arr (Shape.memberValues (Shape.parts x))) = some x) ∧
    ∀ (ms : List (String × Json)) (c : Config), Config.ofJson? (.obj ms) = some c ↔
      Gives ms "database_url" "" text? c.databaseUrl ∧
      Gives ms "max_connections" 5 Config.word32? c.maxConnections ∧
      Gives ms "acquire_timeout_secs" 5 Config.word64? c.acquireTimeout ∧
      Gives ms "migrations_dir" none optionalText? c.migrationsDir ∧
      Gives ms "migration_policy" .bestEffort Config.policy? c.migrationPolicy := by
  refine ⟨fun α _ => Shape.byPosition α, SyncMark.byPosition, Config.byPosition,
    fun α _ vs u d width => ?_, fun α _ x years => Shape.ofJson?_memberValues years,
    fun ms c => Config.ofJson?_obj_eq_some_iff⟩
  have mark : SyncMark.ofJson? (.arr [u, d]) =
      SyncMark.ofJson? (.obj [("updated_at", u), ("deleted", d)]) :=
    SyncMark.byPosition.likeNames [u, d] (Nat.le_refl 2) (Nat.le_refl 2)
  have length (v : Json) : (vs ++ [v]).length = (Shape.memberNames α).length := by
    rw [List.length_append, List.length_singleton, width]
  rw [Shape.ofJson?_congr_sync width mark]
  refine (Shape.byPosition α).likeNames _ ?_ ?_
  · rw [length]
    exact Nat.sub_le _ 1
  · rw [length]

/-- Notes as arrays, with a mark as an array, without a mark, and with too much; settings of which
two are given by position, or one by name among other members. -/
theorem positions_read_like_names_of_note :
    let note : TextNote := { id := "n", data := "d", sync := ⟨none, true⟩ }
    let names := ["id", "data", "metadata", "sync"]
    let mark : Json := .obj [("updated_at", .null), ("deleted", .bool true)]
    Shape.ofJson? (.arr [.str "n", .str "d", .null, .arr [.null, .bool true]]) = some note ∧
    Shape.ofJson? (.obj (names.zip [.str "n", .str "d", .null, mark])) = some note ∧
    (Shape.ofJson? (.arr [.str "n", .str "d", .null]) : Option TextNote) =
      Shape.ofJson? (.obj (names.zip [.str "n", .str "d", .null])) ∧
    (Shape.ofJson? (.arr [.str "n", .str "d", .null, mark, .null]) : Option TextNote) = none ∧
    Config.ofJson? (.arr [.str "db", .int 9]) =
      Config.ofJson? (.obj [("database_url", .str "db"), ("max_connections", .int 9)]) ∧
    Config.ofJson? (.obj [("max_connections", .int 9), ("pool", .int 1)]) =
      some { maxConnections := 9 } := by
  intro note names mark
  obtain ⟨shapes, -, settings, marks, values, given⟩ := positions_read_like_names
  have years : (Shape.parts note).sync.FourDigits := by
    intro t time
    cases time
  have keyed : Shape.ofJson? (.obj (names.zip [.str "n", .str "d", .null, mark])) = some note :=
    ((shapes TextNote).likeNames [.str "n", .str "d", .null, mark] (by decide)
      (by decide)).symm.trans (values TextNote note years)
  have alike := marks TextNote [.str "n", .str "d", .null] .null (.bool true) (by decide)
  refine ⟨alike.trans keyed, keyed,
    (shapes TextNote).likeNames [.str "n", .str "d", .null] (by decide) (by decide),
    (shapes TextNote).surplus _ (by decide),
    settings.likeNames [.str "db", .int 9] (by decide) (by decide), (given _ _).mpr ?_⟩
  exact ⟨.absent (by decide), .given rfl rfl, .absent (by decide), .absent (by decide),
    .absent (by decide)⟩

end Json
end RecordSync
