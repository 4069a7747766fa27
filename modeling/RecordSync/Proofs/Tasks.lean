import RecordSync.Cli.Run
import RecordSync.Proofs.Calls

/-!
# Tasks

A task goes on as long as its calls give something. A call that fails ends it with a report, and a
call that is never answered leaves it waiting.

Key theorems: `Cli.run_attempt`, `Cli.run_bind`, `Cli.run_attempt_eq_ok_iff`,
`Cli.run_bind_eq_ok_iff`.
-/
namespace RecordSync
namespace Cli

variable {α β : Type} {s s' : Session}

/-- A call that is attempted gives what it gives, or its failure is reported. -/
theorem run_attempt (heading : String) (c : Call α) (s : Session) :
    (attempt heading c).run.run s = match c.run s with
      | (.ok x, s') => (.ok (.ok x), s')
      | (.error (.failed e), s') => (.ok (.error { report := Report.ofStore heading e }), s')
      | (.error .waiting, s') => (.error .waiting, s') := by
  unfold attempt attemptWith
  show (tryCatch (Except.ok <$> c) _).run s = _
  rw [Call.run_tryCatch, map_eq_pure_bind, Call.run_bind]
  rcases c.run s with ⟨(e | _) | x, s'⟩ <;> rfl

theorem run_bind (t : Task α) (f : α → Task β) (s : Session) :
    (t >>= f).run.run s = match t.run.run s with
      | (.ok (.ok x), s') => (f x).run.run s'
      | (.ok (.error e), s') => (.ok (.error e), s')
      | (.error h, s') => (.error h, s') := by
  change (t.run >>= _).run s = _
  rw [Call.run_bind]
  rcases t.run.run s with ⟨_ | (_ | _), s'⟩ <;> rfl

theorem run_attempt_eq_ok_iff {heading : String} {c : Call α} {x : α} :
    (attempt heading c).run.run s = (.ok (.ok x), s') ↔ c.run s = (.ok x, s') := by
  rw [run_attempt]
  rcases c.run s with ⟨(e | _) | y, s''⟩
  · exact ⟨nofun, nofun⟩
  · exact ⟨nofun, nofun⟩
  · constructor <;> rintro ⟨⟩ <;> rfl

theorem run_bind_eq_ok_iff {t : Task α} {f : α → Task β} {y : β} :
    (t >>= f).run.run s = (.ok (.ok y), s') ↔
      ∃ x s₁, t.run.run s = (.ok (.ok x), s₁) ∧ (f x).run.run s₁ = (.ok (.ok y), s') := by
  rw [run_bind]
  rcases t.run.run s with ⟨e | (e | x), s₁⟩
  · refine ⟨nofun, ?_⟩
    rintro ⟨_, _, ⟨⟩, -⟩
  · refine ⟨nofun, ?_⟩
    rintro ⟨_, _, ⟨⟩, -⟩
  · constructor
    · exact fun h => ⟨x, s₁, rfl, h⟩
    · rintro ⟨_, _, ⟨⟩, h⟩
      exact h

end Cli
end RecordSync
