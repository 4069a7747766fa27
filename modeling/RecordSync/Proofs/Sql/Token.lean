import Mathlib
import RecordSync.Text.Ascii
import RecordSync.Text.Decimal
import RecordSync.Text.Commas
import RecordSync.Text.Quoted

/-!
# Tokens of a statement

A statement is read from left to right into words, quoted names, texts between apostrophes,
placeholders and symbols. Words are folded to lower case, as names without quotes are; what stands
between quotes is kept as it is, a doubled quote standing for one. A placeholder is a dollar sign
with the digits after it.

A text is read piece by piece: a piece either ends where a token ends (`Complete`), or leaves its
last token to be ended by a delimiter or by the end of the text (`Pending`).

Key definitions: `Sql.Token`, `Sql.tokens?`, `Sql.Complete`, `Sql.Pending`.
Key theorems: `Sql.Complete.append`, `Sql.Pending.append`, `Sql.pending_placeholder`,
`Sql.pending_quote`.
-/
namespace RecordSync
namespace Sql

/-- A token. -/
inductive Token where
  /-- A name or a keyword, in lower case. -/
  | word (s : String)
  /-- A name between double quotes. -/
  | quoted (s : String)
  /-- A text between apostrophes. -/
  | literal (s : String)
  | placeholder (n : Nat)
  | symbol (c : Char)
  deriving DecidableEq, Repr

/-! ### Reading -/

/-- What a reader is in the middle of. -/
inductive Mode where
  | between
  | word (cs : List Char)
  /-- A dollar sign, with no digit after it yet. -/
  | dollar
  | placeholder (n : Nat)
  | quoted (cs : List Char)
  /-- A quote inside a quoted name: its end, or the first of two that stand for one. -/
  | quotedEnd (cs : List Char)
  | literal (cs : List Char)
  /-- An apostrophe inside a text: its end, or the first of two that stand for one. -/
  | literalEnd (cs : List Char)
  deriving DecidableEq, Repr

/-- Whether a word may start with the character. -/
def isWordStart (c : Char) : Bool := c.isAlpha || c == '_'

/-- Whether a word may go on with the character. -/
def isWordRest (c : Char) : Bool := isWordStart c || c.isDigit

/-- Whether the character stands by itself. -/
def isSymbol (c : Char) : Bool := ['(', ')', ',', '=', '>', '+', ':', '.'].contains c

/-- Whether the character is white space between tokens. -/
def isSpace (c : Char) : Bool := c == ' ' || c == '\n'

/-- The token of a word. -/
def wordToken (cs : List Char) : Token := .word (Text.lower (String.ofList cs))

/-- What a character between tokens completes, and what it starts. -/
def begin (c : Char) : Option (List Token × Mode) :=
  if isSpace c then some ([], .between)
  else if isSymbol c then some ([.symbol c], .between)
  else if isWordStart c then some ([], .word [c])
  else if c = '$' then some ([], .dollar)
  else if c = '\x22' then some ([], .quoted [])
  else if c = '\x27' then some ([], .literal [])
  else none

/-- What the next character completes, and what is under way after it. -/
def step : Mode → Char → Option (List Token × Mode)
  | .between, c => begin c
  | .word cs, c =>
    if isWordRest c then some ([], .word (cs ++ [c]))
    else (begin c).map fun r => (wordToken cs :: r.1, r.2)
  | .dollar, c => (Decimal.digit? c).map fun d => ([], .placeholder d)
  | .placeholder n, c =>
    match Decimal.digit? c with
    | some d => some ([], .placeholder (10 * n + d))
    | none =>
      if isWordRest c then none else (begin c).map fun r => (.placeholder n :: r.1, r.2)
  | .quoted cs, c =>
    if c = '\x22' then some ([], .quotedEnd cs) else some ([], .quoted (cs ++ [c]))
  | .quotedEnd cs, c =>
    if c = '\x22' then some ([], .quoted (cs ++ [c]))
    else (begin c).map fun r => (.quoted (String.ofList cs) :: r.1, r.2)
  | .literal cs, c =>
    if c = '\x27' then some ([], .literalEnd cs) else some ([], .literal (cs ++ [c]))
  | .literalEnd cs, c =>
    if c = '\x27' then some ([], .literal (cs ++ [c]))
    else (begin c).map fun r => (.literal (String.ofList cs) :: r.1, r.2)

/-- The token that the end of the text completes, if it may end there. -/
def finish : Mode → Option (List Token)
  | .between => some []
  | .word cs => some [wordToken cs]
  | .placeholder n => some [.placeholder n]
  | .quotedEnd cs => some [.quoted (String.ofList cs)]
  | .literalEnd cs => some [.literal (String.ofList cs)]
  | .dollar | .quoted _ | .literal _ => none

/-- The tokens that characters complete, and what is under way after them. -/
def run (m : Mode) : List Char → Option (List Token × Mode)
  | [] => some ([], m)
  | c :: cs => do
    let (ts, m) ← step m c
    let (us, m) ← run m cs
    some (ts ++ us, m)

/-- The tokens of a text, if it is made of tokens. -/
def tokens? (s : String) : Option (List Token) := do
  let (ts, m) ← run .between s.toList
  let us ← finish m
  some (ts ++ us)

/-! ### Pieces of a text -/

theorem run_append {m m' m'' : Mode} {a b : List Char} {ts us : List Token}
    (ha : run m a = some (ts, m')) (hb : run m' b = some (us, m'')) :
    run m (a ++ b) = some (ts ++ us, m'') := by
  induction a generalizing m ts with
  | nil =>
    obtain ⟨rfl, rfl⟩ : ts = [] ∧ m = m' := by simpa [run, eq_comm] using ha
    exact hb
  | cons c a ih =>
    rw [run] at ha
    cases hs : step m c with
    | none => simp [hs] at ha
    | some r =>
      obtain ⟨vs, n⟩ := r
      cases hr : run n a with
      | none => simp [hs, hr] at ha
      | some r =>
        obtain ⟨ws, n'⟩ := r
        obtain ⟨rfl, rfl⟩ : vs ++ ws = ts ∧ n' = m' := by simpa [hs, hr] using ha
        rw [List.cons_append, run, hs]
        simp [ih hr]

/-- Whether the character ends a token in front of it. -/
def isDelimiter (c : Char) : Bool := isSpace c || isSymbol c

/-- A text opens with a character that ends a token in front of it. -/
def Delimited (s : String) : Prop := s.toList.head?.any isDelimiter = true

instance (s : String) : Decidable (Delimited s) := by unfold Delimited; infer_instance

/-- What is under way is a token, which a delimiter or the end of the text completes. -/
structure Mode.Ends (m : Mode) (tok : Token) : Prop where
  finish : finish m = some [tok]
  step : ∀ c, isDelimiter c = true → step m c = (begin c).map fun r => (tok :: r.1, r.2)

/-- A text is read as tokens, the last of which is complete. -/
def Complete (s : String) (ts : List Token) : Prop := run .between s.toList = some (ts, .between)

/-- A text is read as tokens, the last of which is not complete before a delimiter or the end. -/
def Pending (s : String) (ts : List Token) : Prop :=
  ∃ us m tok, run .between s.toList = some (us, m) ∧ m.Ends tok ∧ ts = us ++ [tok]

instance (s : String) (ts : List Token) : Decidable (Complete s ts) := by
  unfold Complete; infer_instance

theorem Complete.tokens {s : String} {ts : List Token} (h : Complete s ts) :
    tokens? s = some ts := by
  unfold Complete at h
  simp [tokens?, h, finish]

theorem Pending.tokens {s : String} {ts : List Token} (h : Pending s ts) : tokens? s = some ts := by
  obtain ⟨us, m, tok, hr, he, rfl⟩ := h
  simp [tokens?, hr, he.finish]

theorem Complete.append {a b : String} {ts us : List Token} (ha : Complete a ts)
    (hb : Complete b us) : Complete (a ++ b) (ts ++ us) := by
  unfold Complete at *
  rw [String.toList_append]
  exact run_append ha hb

theorem Complete.append_pending {a b : String} {ts us : List Token} (ha : Complete a ts)
    (hb : Pending b us) : Pending (a ++ b) (ts ++ us) := by
  obtain ⟨vs, m, tok, hr, he, rfl⟩ := hb
  refine ⟨ts ++ vs, m, tok, ?_, he, (List.append_assoc ..).symm⟩
  rw [String.toList_append]
  exact run_append ha hr

/-- In front of a delimiter, a token that is under way is complete. -/
theorem Mode.Ends.run {m n : Mode} {tok : Token} {cs : List Char} {ts : List Token}
    (h : m.Ends tok) (hd : cs.head?.any isDelimiter = true)
    (hr : Sql.run .between cs = some (ts, n)) : Sql.run m cs = some (tok :: ts, n) := by
  cases cs with
  | nil => simp at hd
  | cons c cs =>
    rw [Sql.run] at hr ⊢
    rw [h.step c (by simpa using hd)]
    cases hb : begin c with
    | none => simp [Sql.step, hb] at hr
    | some r =>
      simp only [Sql.step, hb, Option.bind_eq_bind, Option.bind_some, Option.map_some] at hr ⊢
      cases hn : Sql.run r.2 cs with
      | none => simp [hn] at hr
      | some q => simpa [hn] using hr

theorem Pending.append {a b : String} {ts us : List Token} (ha : Pending a ts) (hd : Delimited b)
    (hb : Complete b us) : Complete (a ++ b) (ts ++ us) := by
  obtain ⟨vs, m, tok, hr, he, rfl⟩ := ha
  unfold Complete
  rw [String.toList_append, List.append_assoc]
  exact run_append hr (he.run hd hb)

theorem Pending.append_pending {a b : String} {ts us : List Token} (ha : Pending a ts)
    (hd : Delimited b) (hb : Pending b us) : Pending (a ++ b) (ts ++ us) := by
  obtain ⟨vs, m, tok, hr, he, rfl⟩ := ha
  obtain ⟨ws, n, tok', hr', he', rfl⟩ := hb
  refine ⟨vs ++ tok :: ws, n, tok', ?_, he', by simp⟩
  rw [String.toList_append]
  exact run_append hr (he.run hd hr')

/-! ### Words, placeholders, quoted names -/

theorem eq_of_isDelimiter {c : Char} (h : isDelimiter c = true) :
    c ∈ [' ', '\n', '(', ')', ',', '=', '>', '+', ':', '.'] := by
  simpa [isDelimiter, isSpace, isSymbol, or_assoc] using h

/-- A delimiter goes on with nothing. -/
theorem delimiter_apart {c : Char} (h : isDelimiter c = true) :
    isWordRest c = false ∧ Decimal.digit? c = none ∧ c ≠ '\x22' := by
  have listed := eq_of_isDelimiter h
  simp only [List.mem_cons, List.not_mem_nil, or_false] at listed
  rcases listed with rfl | rfl | rfl | rfl | rfl | rfl | rfl | rfl | rfl | rfl <;>
    exact ⟨by decide, by decide, by decide⟩

theorem ends_word (cs : List Char) : (Mode.word cs).Ends (wordToken cs) where
  finish := rfl
  step c h := by simp [step, (delimiter_apart h).1]

theorem ends_placeholder (n : Nat) : (Mode.placeholder n).Ends (.placeholder n) where
  finish := rfl
  step c h := by simp [step, delimiter_apart h]

theorem ends_quotedEnd (cs : List Char) :
    (Mode.quotedEnd cs).Ends (.quoted (String.ofList cs)) where
  finish := rfl
  step c h := by simp [step, (delimiter_apart h).2.2]

theorem run_word (cs ds : List Char) (h : ∀ d ∈ ds, isWordRest d = true) :
    run (.word cs) ds = some ([], .word (cs ++ ds)) := by
  induction ds generalizing cs with
  | nil => simp [run]
  | cons d ds ih =>
    obtain ⟨hd, hds⟩ := List.forall_mem_cons.mp h
    simp [run, step, hd, ih _ hds]

/-- Whether a text is a single word. -/
def isWord (s : String) : Bool :=
  match s.toList with
  | [] => false
  | c :: cs => isWordStart c && cs.all isWordRest

theorem begin_of_isWordStart {c : Char} (h : isWordStart c = true) :
    begin c = some ([], .word [c]) := by
  have apart : isDelimiter c = false := by
    cases hd : isDelimiter c with
    | false => rfl
    | true =>
      have := (delimiter_apart hd).1
      simp [isWordRest, h] at this
  obtain ⟨hs, hy⟩ : isSpace c = false ∧ isSymbol c = false := by simpa [isDelimiter] using apart
  simp [begin, hs, hy, h]

/-- A word is read as one token, in lower case. -/
theorem pending_word {s : String} (h : isWord s = true) : Pending s [.word (Text.lower s)] := by
  unfold isWord at h
  split at h
  · cases h
  · rename_i c cs hs
    obtain ⟨hc, hcs⟩ : isWordStart c = true ∧ ∀ d ∈ cs, isWordRest d = true := by simpa using h
    have ends := ends_word s.toList
    rw [wordToken, String.ofList_toList] at ends
    refine ⟨[], .word s.toList, .word (Text.lower s), ?_, ends, rfl⟩
    rw [hs, run, step, begin_of_isWordStart hc]
    simp [run_word [c] cs hcs]

theorem run_placeholder {k n : Nat} {ds : List Char} (h : Decimal.valueFrom? k ds = some n) :
    run (.placeholder k) ds = some ([], .placeholder n) := by
  induction ds generalizing k with
  | nil =>
    obtain rfl : k = n := by simpa [Decimal.valueFrom?] using h
    rfl
  | cons c ds ih =>
    rw [Decimal.valueFrom?] at h
    cases hd : Decimal.digit? c with
    | none => simp [hd] at h
    | some d => simp [run, step, hd, ih (by simpa [hd] using h)]

/-- A dollar sign and the digits of a number are read as the placeholder of the number. -/
theorem pending_placeholder (n : Nat) :
    Pending ("$" ++ Decimal.writeNat n) [.placeholder n] := by
  refine ⟨[], .placeholder n, .placeholder n, ?_, ends_placeholder n, rfl⟩
  have hv := Decimal.valueFrom?_digits n
  have hne := Decimal.digits_ne_nil n
  rw [String.toList_append, Decimal.writeNat, String.toList_ofList]
  cases hds : Decimal.digits n with
  | nil => exact absurd hds hne
  | cons c ds =>
    rw [hds, Decimal.valueFrom?] at hv
    cases hd : Decimal.digit? c with
    | none => simp [hd] at hv
    | some d =>
      have rest := run_placeholder (by simpa [hd] using hv : Decimal.valueFrom? d ds = some n)
      have dollar : begin '$' = some ([], .dollar) := by decide
      simp [run, step, dollar, hd, rest]

theorem run_body (acc cs : List Char) :
    run (.quoted acc) (Quoted.body cs) = some ([], .quoted (acc ++ cs)) := by
  induction cs generalizing acc with
  | nil => simp [Quoted.body, run]
  | cons c cs ih =>
    rw [Quoted.body]
    split
    · rename_i hc
      simp [run, step, hc, ih]
    · rename_i hc
      simp [run, step, hc, ih]

/-- A quoted identifier is read as the name that was quoted. -/
theorem pending_quote (name : String) : Pending (Quoted.quote name) [.quoted name] := by
  refine ⟨[], .quotedEnd name.toList, .quoted name, ?_, ?_, rfl⟩
  · have opening : run .between ['\x22'] = some ([], .quoted []) := by decide
    have closing : run (.quoted ([] ++ name.toList)) ['\x22'] =
        some ([], .quotedEnd name.toList) := by simp [run, step]
    rw [Quoted.quote, String.toList_ofList, Quoted.quoteChars, ← List.singleton_append]
    exact run_append opening (run_append (run_body [] name.toList) closing)
  · have := ends_quotedEnd name.toList
    rwa [String.ofList_toList] at this

/-! ### Lists with commas -/

/-- Tokens with a comma between each two. -/
def separated : List Token → List Token
  | [] => []
  | [t] => [t]
  | t :: ts => t :: .symbol ',' :: separated ts

/-- A list of pieces that are one token each is read as these tokens with commas between. -/
theorem pending_commas {α : Type} (text : α → String) (tok : α → Token) {xs : List α}
    (hne : xs ≠ []) (h : ∀ x ∈ xs, Pending (text x) [tok x]) :
    Pending (Text.commas (xs.map text)) (separated (xs.map tok)) := by
  induction xs with
  | nil => exact absurd rfl hne
  | cons x xs ih =>
    obtain ⟨hx, hxs⟩ := List.forall_mem_cons.mp h
    cases xs with
    | nil => exact hx
    | cons y ys =>
      have comma : Complete ", " [.symbol ','] := by decide
      have head : Complete (text x ++ ", ") [tok x, .symbol ','] :=
        hx.append (by decide) comma
      exact head.append_pending (ih (by simp) hxs)

end Sql
end RecordSync
