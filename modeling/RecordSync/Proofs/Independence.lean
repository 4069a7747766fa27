import RecordSync.Proofs.Columns
import RecordSync.Proofs.Operations
import RecordSync.Proofs.Waiting

/-!
# What the text of a statement depends on

Two operations are alike when they are of one kind and carry values for the same keys, whatever the
values. Alike operations send the same texts, and are refused alike. The text of a write is put
together from a few fixed texts, placeholders, the name of the table and names of its columns;
nothing else that a caller passes finds its way into it.

Key definitions: `Operation.Alike`, `Write.SameStanding`, `Statement.Vetted`.
Key theorems: `texts_independent_of_values`, `Write.texts_alike`, `Write.refusal_alike`,
`Write.vetted_of_query`.
-/
namespace RecordSync

/-! ### Operations that are alike -/

/-- Two writes of one kind that carry values for the same keys. -/
inductive Write.Alike : Write → Write → Prop
  | add {id id' : String} {f g : Fields} (keys : ∀ key, key ∈ f.names ↔ key ∈ g.names) :
    Alike (.add id f) (.add id' g)
  | update {id id' : String} {f g : Fields} (keys : ∀ key, key ∈ f.names ↔ key ∈ g.names) :
    Alike (.update id f) (.update id' g)
  | delete {id id' : String} : Alike (.delete id) (.delete id')

/-- Two operations of one kind that carry values for the same keys; reads are both given a time or
not, and both include deleted records or not. -/
inductive Operation.Alike : Operation → Operation → Prop
  | write {user user' : UserId} {w w' : Write} (alike : w.Alike w') :
    Alike (.write user w) (.write user' w')
  | read {user user' : UserId} {since since' : Option Instant} {includeDeleted : Bool}
    (given : since.isSome = since'.isSome) :
    Alike (.read user since includeDeleted) (.read user' since' includeDeleted)

/-- The user ids are both zero or both not, and so for empty record ids. -/
def Write.SameStanding (user user' : UserId) (w w' : Write) : Prop :=
  (user.value = 0 ↔ user'.value = 0) ∧ (w.id = "" ↔ w'.id = "")

/-- Whether an operation is a read, which asks for the catalog first. -/
def Operation.isRead : Operation → Bool
  | .write _ _ => false
  | .read _ _ _ => true

/-! ### Keys -/

/-- Fields with the same keys have them in the same order. -/
theorem Fields.names_eq {f g : Fields} (keys : ∀ key, key ∈ f.names ↔ key ∈ g.names) :
    f.names = g.names := by
  have sorted (h : Fields) : h.names.Pairwise fun a b => Text.bytes a < Text.bytes b :=
    List.pairwise_map.mpr h.sorted
  have perm : f.names.Perm g.names :=
    (List.perm_ext_iff_of_nodup f.nodup_names g.nodup_names).mpr keys
  refine perm.eq_of_pairwise (fun a b _ _ hab hba => ?_) (sorted f) (sorted g)
  exact absurd (List.lt_trans hab hba) (List.lt_irrefl _)

namespace Table

theorem resolveEntries_columns (t : Table) {es es' : List (String × String)}
    (h : es.map Prod.fst = es'.map Prod.fst) :
    (t.resolveEntries es).map (·.map Prod.fst) = (t.resolveEntries es').map (·.map Prod.fst) := by
  induction es generalizing es' with
  | nil =>
    obtain rfl : es' = [] := by simpa using h.symm
    rfl
  | cons e es ih =>
    cases es' with
    | nil => simp at h
    | cons e' es' =>
      obtain ⟨he, hes⟩ := List.cons.inj h
      have rest := ih hes
      rw [resolveEntries, resolveEntries, he]
      cases t.column e'.1 with
      | error err => rfl
      | ok c =>
        simp only [bind, Except.bind]
        cases hr : t.resolveEntries es with
        | error err =>
          rw [hr] at rest
          cases hr' : t.resolveEntries es' <;> simp_all [Except.map]
        | ok vs =>
          rw [hr] at rest
          cases hr' : t.resolveEntries es' <;> simp_all [Except.map]

/-- Which columns fields are resolved to, or why they are refused, depends on their keys alone. -/
theorem resolve_columns (t : Table) {f g : Fields} (keys : ∀ key, key ∈ f.names ↔ key ∈ g.names) :
    (t.resolve f).map (·.map Prod.fst) = (t.resolve g).map (·.map Prod.fst) :=
  t.resolveEntries_columns (Fields.names_eq keys)

theorem resolve_error_alike {t : Table} {f g : Fields}
    (keys : ∀ key, key ∈ f.names ↔ key ∈ g.names) {e : ValidationError}
    (h : t.resolve f = .error e) : t.resolve g = .error e := by
  have same := t.resolve_columns keys
  rw [h] at same
  cases hg : t.resolve g <;> simp_all [Except.map]

theorem resolve_ok_alike {t : Table} {f g : Fields}
    (keys : ∀ key, key ∈ f.names ↔ key ∈ g.names) {vs vs' : List (DataColumn × String)}
    (h : t.resolve f = .ok vs) (h' : t.resolve g = .ok vs') :
    vs.map Prod.fst = vs'.map Prod.fst := by
  simpa [h, h', Except.map] using t.resolve_columns keys

end Table

/-! ### Refusals -/

namespace Session

/-- Once the arguments of a write are accepted, nothing is said about them any more. -/
theorem run_execute_ne_refused (l : Limits) (op : String) (q : Query) (s : Session)
    (e : ValidationError) : ((execute l op q).run s).1 ≠ .error (.failed (.invalidArgument e)) := by
  rw [run_execute]
  cases ho : obstacle l op s with
  | some err => simpa using (names_of_obstacle ho).ne_refused e
  | none =>
    cases hw : (awaited l op s).1 with
    | error h => simpa [Except.map] using (names_of_awaited hw).ne_refused e
    | ok answer => simp [Except.map]

end Session

theorem Engine.checkAddress_alike {user user' : UserId} {id id' : String}
    (hu : user.value = 0 ↔ user'.value = 0) (hi : id = "" ↔ id' = "") {e : ValidationError}
    (h : checkAddress user id = .error e) : checkAddress user' id' = .error e := by
  unfold checkAddress UserId.requireSet requireEntryId at *
  by_cases h0 : user'.value = 0
  · simpa [hu, h0, bind, Except.bind] using h
  · by_cases h1 : id' = ""
    · simpa [hu, h0, hi, h1, bind, Except.bind] using h
    · simp [hu, h0, hi, h1, bind, Except.bind] at h

theorem Engine.checkWrite_alike {t : Table} {user user' : UserId} {id id' : String}
    {f g : Fields} (hu : user.value = 0 ↔ user'.value = 0) (hi : id = "" ↔ id' = "")
    (keys : ∀ key, key ∈ f.names ↔ key ∈ g.names) {e : ValidationError}
    (h : checkWrite t user id f = .error e) : checkWrite t user' id' g = .error e := by
  unfold checkWrite at *
  cases ha : checkAddress user id with
  | error err =>
    have ha' := checkAddress_alike hu hi ha
    simpa [ha, ha', bind, Except.bind] using h
  | ok u =>
    cases ha' : checkAddress user' id' with
    | error err =>
      have back := checkAddress_alike hu.symm hi.symm ha'
      rw [ha] at back
      cases back
    | ok u' =>
      cases hr : t.resolve f with
      | error err =>
        have hr' := Table.resolve_error_alike keys hr
        simpa [ha, hr, hr', bind, Except.bind] using h
      | ok vs => simp [ha, hr, bind, Except.bind] at h

namespace Write

variable {t : Table} {user user' : UserId} {w w' : Write}

theorem query_error_alike (alike : w.Alike w') (same : SameStanding user user' w w')
    {e : ValidationError} (h : w.query t user = .error e) : w'.query t user' = .error e := by
  obtain ⟨hu, hi⟩ := same
  have keys : ∀ key, key ∈ w.fields.names ↔ key ∈ w'.fields.names := by
    cases alike with
    | add keys => exact keys
    | update keys => exact keys
    | delete => exact fun _ => Iff.rfl
  rw [query_eq_map] at h ⊢
  cases hc : Engine.checkWrite t user w.id w.fields with
  | ok r => simp [hc, Except.map] at h
  | error err =>
    rw [Engine.checkWrite_alike hu hi keys hc]
    simpa [hc, Except.map] using h

/-- A write is refused exactly when there is something wrong with its arguments. -/
theorem refused_iff {l : Limits} {s : Session} {e : ValidationError} :
    ((w.call l t user).run s).1 = .error (.failed (.invalidArgument e)) ↔
      w.query t user = .error e := by
  rw [run_call]
  rcases w.query t user with e' | _ | q
  · simp
  · cases hl : l.check w.op s.now with
    | ok => simp [Except.map, Except.mapError]
    | error err =>
      simpa [Except.map, Except.mapError] using (Limits.names_of_check hl).ne_refused e
  · simpa using Session.run_execute_ne_refused l w.op q s e

/-- **Refusals do not depend on values.** Alike writes of the same standing are refused alike. -/
theorem refusal_alike (alike : w.Alike w') (same : SameStanding user user' w w')
    {l l' : Limits} {s s' : Session} {e : ValidationError}
    (h : ((w.call l t user).run s).1 = .error (.failed (.invalidArgument e))) :
    ((w'.call l' t user').run s').1 = .error (.failed (.invalidArgument e)) :=
  refused_iff.mpr (query_error_alike alike same (refused_iff.mp h))

end Write

/-! ### Texts -/

namespace Write

variable {t : Table} {user user' : UserId} {w w' : Write}

/-- The queries of alike writes are one statement with other values. -/
theorem statement_alike (alike : w.Alike w') {q q' : Query}
    (h : w.query t user = .ok (some q)) (h' : w'.query t user' = .ok (some q')) :
    q.statement = q'.statement := by
  obtain ⟨-, -, vs, hr, hq⟩ := query_eq_some_iff.mp h
  obtain ⟨-, -, vs', hr', hq'⟩ := query_eq_some_iff.mp h'
  cases alike with
  | add keys =>
    obtain rfl := hq
    obtain rfl := hq'
    have columns (xs : List (DataColumn × String)) :
        xs.map (fun v => Column.data v.1) = (xs.map Prod.fst).map .data := by simp
    simp only [Query.insert, columns, Table.resolve_ok_alike keys hr hr']
  | update keys =>
    obtain ⟨-, rfl⟩ := hq
    obtain ⟨-, rfl⟩ := hq'
    have same := Table.resolve_ok_alike keys hr hr'
    have length : vs.length = vs'.length := by simpa using congrArg List.length same
    simp only [Query.update, same, length]
  | delete =>
    obtain rfl := hq
    obtain rfl := hq'
    rfl

/-- Two alike writes that both send something send the same text. -/
theorem texts_alike (alike : w.Alike w') (l l' : Limits) (s s' : Session) (i : Nat)
    {a b : String} (ha : ((Operation.write user w).texts l t s)[i]? = some a)
    (hb : ((Operation.write user' w').texts l' t s')[i]? = some b) : a = b := by
  have texts (l : Limits) (user : UserId) (w : Write) (s : Session) (a : String)
      (h : ((Operation.write user w).texts l t s)[i]? = some a) :
      ∃ q, w.query t user = .ok (some q) ∧ a = q.statement.text := by
    unfold Operation.texts Operation.call at h
    rw [Call.asked_map, asked_call] at h
    rcases hq : w.query t user with e | _ | q
    · simp [hq] at h
    · simp [hq] at h
    · refine ⟨q, rfl, ?_⟩
      by_cases hr : s.Ready l
      · have hm := List.mem_of_getElem? h
        simpa [hq, hr, Event.text?] using hm
      · simp [hq, hr] at h
  obtain ⟨q, hq, rfl⟩ := texts l user w s a ha
  obtain ⟨q', hq', rfl⟩ := texts l' user' w' s' b hb
  rw [statement_alike alike hq hq']

end Write

/-- Two alike reads that hear the same from the catalog send the same texts, as far as they come. -/
theorem readAll_texts_alike (t : Table) {user user' : UserId} {since since' : Option Instant}
    {includeDeleted : Bool} (given : since.isSome = since'.isSome) (l l' : Limits)
    {s s' : Session} (heard : s.nextReply.answer = s'.nextReply.answer) (i : Nat) {a b : String}
    (ha : ((Operation.read user since includeDeleted).texts l t s)[i]? = some a)
    (hb : ((Operation.read user' since' includeDeleted).texts l' t s')[i]? = some b) : a = b := by
  have texts (l : Limits) (user : UserId) (since : Option Instant) (s : Session) (a : String)
      (h : ((Operation.read user since includeDeleted).texts l t s)[i]? = some a) :
      (i = 0 ∧ a = (Query.columns t).statement.text) ∨
        ∃ names, i = 1 ∧ Engine.namesOf t (Session.rowsOf s.nextReply.answer) = .ok names ∧
          a = (Query.select t names user since includeDeleted).statement.text := by
    unfold Operation.texts Operation.call at h
    rw [Call.asked_map, Engine.asked_readAll] at h
    rcases hc : (Engine.tableColumns l t).run s with ⟨e | names, s''⟩
    · rw [hc] at h
      simp only [Engine.asked_tableColumns] at h
      by_cases hr : s.Ready l
      · cases i with
        | zero => exact .inl ⟨rfl, by simpa [hr, Event.text?, eq_comm] using h⟩
        | succ i => simp [hr, Event.text?] at h
      · simp [hr] at h
    · obtain ⟨-, -, hn⟩ := Engine.run_tableColumns_ok hc
      rw [hc] at h
      by_cases hr : s''.Ready l
      · match i with
        | 0 => exact .inl ⟨rfl, by simpa [Event.text?, eq_comm] using h⟩
        | 1 => exact .inr ⟨names, rfl, hn, by simpa [hr, Event.text?, eq_comm] using h⟩
        | i + 2 => simp [hr, Event.text?] at h
      · cases i with
        | zero => exact .inl ⟨rfl, by simpa [Event.text?, eq_comm] using h⟩
        | succ i => simp [hr, Event.text?] at h
  rcases texts l user since s a ha with ⟨h0, rfl⟩ | ⟨names, h1, hn, rfl⟩
  · rcases texts l' user' since' s' b hb with ⟨-, rfl⟩ | ⟨-, h1, -⟩
    · rfl
    · omega
  · rcases texts l' user' since' s' b hb with ⟨h0, -⟩ | ⟨names', -, hn', rfl⟩
    · omega
    · rw [heard, hn'] at hn
      obtain rfl := Except.ok.inj hn
      cases since <;> cases since' <;> first | rfl | simp at given

/-! ### What a text is made of -/

/-- The texts that every statement of a write is put together from. -/
def Statement.fixedTexts : List String :=
  ["", "INSERT INTO ", " (", ", ", ") VALUES (", ")", "UPDATE ", " SET ", " SET deleted = TRUE, ",
    " = ", "updated_at = GREATEST(now(), updated_at + interval '1 microsecond')",
    " WHERE user_id = ", " AND id = "]

/-- A text is put together from fixed texts, placeholders, the table's name and the names of its
columns. -/
inductive Statement.Vetted (t : Table) : String → Prop
  | fixed {s : String} (h : s ∈ fixedTexts) : Vetted t s
  | placeholder (n : Nat) : Vetted t (Statement.placeholder n)
  | table : Vetted t t.name
  | column {c : Column} (h : c ∈ t.columns) : Vetted t c.name
  | append {a b : String} (ha : Vetted t a) (hb : Vetted t b) : Vetted t (a ++ b)

namespace Statement

variable {t : Table}

theorem vetted_commas {α : Type} (text : α → String) {xs : List α}
    (h : ∀ x ∈ xs, Vetted t (text x)) : Vetted t (Text.commas (xs.map text)) := by
  induction xs with
  | nil => exact (.fixed (by decide) : Vetted t "")
  | cons x xs ih =>
    obtain ⟨hx, hxs⟩ := List.forall_mem_cons.mp h
    cases xs with
    | nil => exact hx
    | cons y ys => exact (hx.append (.fixed (by decide))).append (ih hxs)

theorem vetted_assignments {values : List (DataColumn × Nat)}
    (h : ∀ v ∈ values, v.1 ∈ t.dataColumns) : Vetted t (assignments values) := by
  induction values with
  | nil => exact .fixed (by decide)
  | cons v vs ih =>
    obtain ⟨hv, hvs⟩ := List.forall_mem_cons.mp h
    have column : Vetted t v.1.name := .column (c := .data v.1) (Table.data_mem_columns.mpr hv)
    exact (((column.append (.fixed (by decide))).append (.placeholder v.2)).append
      (.fixed (by decide))).append (ih hvs)

theorem vetted_ownRow (owner id : Nat) : Vetted t (ownRow owner id) :=
  (((Vetted.fixed (by decide)).append (.placeholder owner)).append (.fixed (by decide))).append
    (.placeholder id)

theorem vetted_insert {values : List (Column × Nat)} (h : ∀ v ∈ values, v.1 ∈ t.columns) :
    Vetted t (Statement.insert t values).text := by
  have columns : Vetted t (Text.commas (values.map fun v => v.1.name)) :=
    vetted_commas _ fun v hv => .column (h v hv)
  have numbers : Vetted t (Text.commas (values.map fun v => placeholder v.2)) :=
    vetted_commas _ fun v _ => .placeholder v.2
  have head : Vetted t ("INSERT INTO " ++ t.name ++ " (") :=
    ((Vetted.fixed (by decide)).append .table).append (.fixed (by decide))
  exact (((head.append columns).append (.fixed (by decide))).append numbers).append
    (.fixed (by decide))

theorem vetted_update {values : List (DataColumn × Nat)} (h : ∀ v ∈ values, v.1 ∈ t.dataColumns)
    (owner id : Nat) : Vetted t (Statement.update t values owner id).text := by
  have head : Vetted t ("UPDATE " ++ t.name ++ " SET ") :=
    ((Vetted.fixed (by decide)).append .table).append (.fixed (by decide))
  exact ((head.append (vetted_assignments h)).append (.fixed (by decide))).append
    (vetted_ownRow owner id)

theorem vetted_delete (owner id : Nat) : Vetted t (Statement.delete t owner id).text := by
  have head : Vetted t ("UPDATE " ++ t.name ++ " SET deleted = TRUE, ") :=
    ((Vetted.fixed (by decide)).append .table).append (.fixed (by decide))
  exact (head.append (.fixed (by decide))).append (vetted_ownRow owner id)

end Statement

namespace Write

variable {t : Table} {user : UserId} {w : Write}

/-- Whatever a write carries, its text is vetted. -/
theorem vetted_of_query {q : Query} (h : w.query t user = .ok (some q)) :
    Statement.Vetted t q.statement.text := by
  obtain ⟨-, -, values, hr, hq⟩ := query_eq_some_iff.mp h
  have known := (Table.resolve_eq_ok_iff.mp hr).2
  cases w with
  | add id fields =>
    obtain rfl := hq
    refine Statement.vetted_insert fun v hv => ?_
    have hm := Query.fst_mem_of_mem_numbered hv
    rcases List.mem_cons.mp hm with hc | hm
    · rw [hc]
      exact t.convention_mem_columns _
    · rcases List.mem_cons.mp hm with hc | hm
      · rw [hc]
        exact t.convention_mem_columns _
      · obtain ⟨x, hx, hc⟩ := List.mem_map.mp hm
        rw [← hc]
        exact Table.data_mem_columns.mpr (known x hx)
  | update id fields =>
    obtain ⟨-, rfl⟩ := hq
    refine Statement.vetted_update (fun v hv => ?_) _ _
    obtain ⟨x, hx, hc⟩ := List.mem_map.mp (Query.fst_mem_of_mem_numbered hv)
    rw [← hc]
    exact known x hx
  | delete id =>
    obtain rfl := hq
    exact Statement.vetted_delete 1 2

/-- A key that names no data column of the table keeps a write from asking anything. -/
theorem asked_nil_of_unknown_key {key : String} (hk : key ∈ w.fields.names)
    (hn : key ∉ t.dataColumns.map DataColumn.name) (l : Limits) (s : Session) :
    (w.call l t user).asked s = [] := by
  rw [asked_call]
  rcases hq : w.query t user with e | _ | q
  · rfl
  · rfl
  · obtain ⟨-, -, values, hr, -⟩ := query_eq_some_iff.mp hq
    exact absurd hr (Table.resolve_ne_ok hk hn values)

end Write

/-! ### Independence -/

/-- **The text of a statement never depends on what a caller passes.** Alike operations send the
same texts, reads as long as the catalog gives the same reply. Alike writes of the same standing are
refused alike. What a write sends is vetted, and it sends nothing if one of its keys is no name of a
data column. -/
theorem texts_independent_of_values (t : Table) :
    (∀ {o o' : Operation}, o.Alike o' → ∀ (l l' : Limits) (s s' : Session),
      (o.isRead = true → s.nextReply.answer = s'.nextReply.answer) →
      ∀ (i : Nat) (a b : String), (o.texts l t s)[i]? = some a → (o'.texts l' t s')[i]? = some b →
        a = b) ∧
    (∀ {user user' : UserId} {w w' : Write}, w.Alike w' → Write.SameStanding user user' w w' →
      ∀ (l l' : Limits) (s s' : Session) (e : ValidationError),
        ((w.call l t user).run s).1 = .error (.failed (.invalidArgument e)) →
        ((w'.call l' t user').run s').1 = .error (.failed (.invalidArgument e))) ∧
    (∀ (user : UserId) (w : Write) (l : Limits) (s : Session) (q : Query),
      .query q ∈ (w.call l t user).asked s → Statement.Vetted t q.statement.text) ∧
    (∀ (user : UserId) (w : Write) (l : Limits) (s : Session), ∀ key ∈ w.fields.names,
      key ∉ t.dataColumns.map DataColumn.name → (w.call l t user).asked s = []) := by
  refine ⟨?_, ?_, ?_, ?_⟩
  · intro o o' alike l l' s s' heard i a b ha hb
    cases alike with
    | write alike => exact Write.texts_alike alike l l' s s' i ha hb
    | read given => exact readAll_texts_alike t given l l' (heard rfl) i ha hb
  · intro user user' w w' alike same l l' s s' e h
    exact Write.refusal_alike alike same h
  · intro user w l s q h
    rw [Write.asked_call] at h
    rcases hq : w.query t user with e | _ | q'
    · simp [hq] at h
    · simp [hq] at h
    · by_cases hr : s.Ready l
      · obtain rfl : q = q' := by simpa [hq, hr] using h
        exact Write.vetted_of_query hq
      · simp [hq, hr] at h
  · intro user w l s key hk hn
    exact Write.asked_nil_of_unknown_key hk hn l s

/-- Two additions, one of them with values that would end a text, and two reads after different
times, seen from a store that answers. A key that tries the same is refused for either value. -/
theorem texts_independent_of_hostile_values :
    let s : Session := { pool := { reachable := true } }
    let rows := ConventionColumn.all.map fun c => [some (Wire.textBytes c.name)]
    let catalog : Reply := { answer := .rows [⟨"column_name", "TEXT"⟩] rows }
    let user : UserId := ⟨1, by decide⟩
    let user' : UserId := ⟨7, by decide⟩
    let plain := Write.add "a" (Fields.ofList [("login", "x")])
    let hostile := Write.add "b\x27; --" (Fields.ofList [("login", "\x27, $1); \x00 DROP")])
    let key := Write.add "a" (Fields.ofList [("login) VALUES (1); --", "x")])
    let key' := Write.add "b" (Fields.ofList [("login) VALUES (1); --", "y")])
    let read := Operation.read user (Instant.ofMicros? 0) true
    let read' := Operation.read user' (Instant.ofMicros? 1) true
    (∃ a b, ((Operation.write user plain).texts {} .credentials s)[0]? = some a ∧
      ((Operation.write user' hostile).texts {} .credentials s)[0]? = some b ∧ a = b) ∧
    (∃ a b, (read.texts {} .credentials { s with replies := [catalog] })[1]? = some a ∧
      (read'.texts {} .credentials { s with replies := [catalog] })[1]? = some b ∧ a = b) ∧
    ((key'.call {} .credentials user').run s).1 = .error (.failed (.invalidArgument
      (.unknownColumn "Credentials" "login) VALUES (1); --"))) ∧
    (key.call {} .credentials user).asked s = [] := by
  intro s rows catalog user user' plain hostile key key' read read'
  obtain ⟨texts, refusals, -, unknown⟩ := texts_independent_of_values .credentials
  refine ⟨⟨_, _, rfl, rfl, ?_⟩, ⟨_, _, rfl, rfl, ?_⟩, ?_, ?_⟩
  · have alike : (Operation.write user plain).Alike (.write user' hostile) :=
      .write (.add fun _ => Iff.rfl)
    exact texts alike {} {} s s (fun h => nomatch h) 0 _ _ rfl rfl
  · have alike : read.Alike read' := .read rfl
    exact texts alike {} {} { s with replies := [catalog] } { s with replies := [catalog] }
      (fun _ => rfl) 1 _ _ rfl rfl
  · have alike : key.Alike key' := .add fun _ => Iff.rfl
    have same : Write.SameStanding user user' key key' := by
      constructor <;> simp [user, user', key, key', Write.id]
    exact refusals alike same {} {} s s _ rfl
  · exact unknown _ key {} s "login) VALUES (1); --" (by decide) (by decide)

end RecordSync
