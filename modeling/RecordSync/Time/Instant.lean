import RecordSync.Time.Civil

/-!
# Instants

An instant is a number of seconds since 1970-01-01 in UTC and a number of nanoseconds within the
second. Nanoseconds from 10^9 on stand for a leap second, which follows a second 59. The store keeps
whole microseconds, counted from 2000-01-01.

Key definitions: `Instant`, `Instant.ofParts?`, `Instant.ofMicros?`, `Instant.storedMicros`,
`Instant.toMicros`.
-/
namespace RecordSync

/-- The nanoseconds of a second. -/
def nanosPerSecond : Nat := 1000000000

/-- What the parts of an instant have to satisfy; the years go from -262143 to 262142. -/
def Instant.Valid (secs : Int) (nanos : Nat) : Prop :=
  -8334601228800 ≤ secs ∧ secs ≤ 8210266876799 ∧ nanos < 2 * nanosPerSecond ∧
    (nanosPerSecond ≤ nanos → secs % 60 = 59)

instance (secs : Int) (nanos : Nat) : Decidable (Instant.Valid secs nanos) := by
  unfold Instant.Valid; infer_instance

/-- A point in time. -/
structure Instant where
  secs : Int
  nanos : Nat
  valid : Instant.Valid secs nanos

namespace Instant

instance : DecidableEq Instant := fun a b =>
  if h : a.secs = b.secs ∧ a.nanos = b.nanos then
    .isTrue (by cases a; cases b; simp_all)
  else
    .isFalse (by intro e; subst e; simp at h)

/-- The instant of given parts, if they form one. -/
def ofParts? (secs : Int) (nanos : Nat) : Option Instant :=
  if h : Valid secs nanos then some ⟨secs, nanos, h⟩ else none

/-- Whether the instant is in a leap second. -/
def isLeap (t : Instant) : Bool := nanosPerSecond ≤ t.nanos

/-- The nanoseconds within the second, a leap second being one of its own. -/
def subsecond (t : Instant) : Nat := t.nanos % nanosPerSecond

/-- The instant without what is finer than a microsecond. -/
def toMicros (t : Instant) : Instant where
  secs := t.secs
  nanos := t.nanos - t.nanos % 1000
  valid := by
    obtain ⟨h1, h2, h3, h4⟩ := t.valid
    refine ⟨h1, h2, by omega, fun h => h4 ?_⟩
    unfold nanosPerSecond at *
    omega

/-- The second, since 1970, from which the store counts. -/
def storeEpoch : Int := 946684800

/-- The microseconds since 1970 that the store is given for the instant: the distance from the
store's epoch without the part that is finer than a microsecond. -/
def storedMicros (t : Instant) : Int :=
  1000000 * storeEpoch + ((t.secs - storeEpoch) * nanosPerSecond + t.nanos).tdiv 1000

/-- The instant of a number of microseconds since 1970. -/
def ofMicros? (us : Int) : Option Instant :=
  ofParts? (us / 1000000) (1000 * (us % 1000000).toNat)

end Instant
end RecordSync
