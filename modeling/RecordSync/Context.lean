import RecordSync.Failure

/-!
# Contexts of calls

A call runs under a context: a token, which may be cancelled, and perhaps a deadline. Tokens form a
forest; cancelling one cancels all that descend from it, made before or after. A deadline is only
ever made earlier. Times are nanoseconds of a clock that starts anywhere; a timeout that ends beyond
what the clock can show sets no deadline.

While a call waits for the store, the first of three things decides: its token is cancelled, its
deadline passes, the answer arrives. At the same time, the first named wins.

Key definitions: `Clock.after?`, `Limits`, `Limits.ended`, `Limits.wait`, `Contexts`,
`Contexts.isCancelled`, `Contexts.limits`.
-/
namespace RecordSync

/-- Nanoseconds of a clock. -/
abbrev Time := Nat

namespace Clock

/-- The last time that the clock shows: it counts seconds in 63 bits. -/
def latest : Time := Nat.pow 2 63 * 1000000000 - 1

/-- The longest duration that there is: seconds in 64 bits, and all nanoseconds. -/
def longest : Nat := Nat.pow 2 64 * 1000000000 - 1

/-- The time after a duration, if the clock can show it. -/
def after? (now : Time) (duration : Nat) : Option Time :=
  if now + duration ≤ latest then some (now + duration) else none

end Clock

/-- How a context ends. -/
inductive Ending where
  | cancelled
  | expired
  deriving DecidableEq, Repr

/-- The failure of an operation whose context has ended. -/
def Ending.error (op : String) : Ending → StoreError
  | .cancelled => .cancelled op
  | .expired => .deadlineExceeded op

/-! ### Limits of one call -/

/-- What may end a call before it has its answer. -/
structure Limits where
  cancelledAt : Option Time := none
  deadline : Option Time := none
  deriving DecidableEq, Repr

/-- What waiting for an answer comes to. -/
inductive Waited where
  | answered (at_ : Time)
  | ended (at_ : Time) (how : Ending)
  /-- No answer comes, and nothing ends the call. -/
  | never
  deriving DecidableEq, Repr

namespace Limits

/-- Whether a limit has been reached. -/
def reached (limit : Option Time) (now : Time) : Bool :=
  match limit with
  | some t => t ≤ now
  | none => false

/-- How the call has ended by a time, if it has; cancellation is looked at first. -/
def ended (l : Limits) (now : Time) : Option Ending :=
  if reached l.cancelledAt now then some .cancelled
  else if reached l.deadline now then some .expired
  else none

/-- Refuses to start an operation whose context has ended. -/
def check (l : Limits) (op : String) (now : Time) : Except StoreError Unit :=
  match l.ended now with
  | some how => .error (how.error op)
  | none => .ok ()

/-- The time at which the call ends by itself, and how. -/
def firstEnd (l : Limits) : Option (Time × Ending) :=
  match l.cancelledAt, l.deadline with
  | none, none => none
  | some c, none => some (c, .cancelled)
  | none, some d => some (d, .expired)
  | some c, some d => if c ≤ d then some (c, .cancelled) else some (d, .expired)

/-- What waiting for an answer that arrives at a given time comes to. -/
def wait (l : Limits) (arrival : Option Time) : Waited :=
  match l.firstEnd, arrival with
  | none, none => .never
  | none, some a => .answered a
  | some (t, how), none => .ended t how
  | some (t, how), some a => if t ≤ a then .ended t how else .answered a

end Limits

/-! ### Trees of contexts -/

/-- A token: whether it was cancelled itself, and the token it descends from. -/
structure Token where
  parent : Option Nat
  cancelled : Bool
  deriving DecidableEq, Repr

/-- A context: the number of its token, and its deadline. -/
structure Context where
  token : Nat
  deadline : Option Time
  deriving DecidableEq, Repr

/-- All contexts that were made, in order, with their tokens and the clock. -/
structure Contexts where
  tokens : List Token := []
  contexts : List Context := []
  now : Time := 0
  deriving DecidableEq, Repr

namespace Contexts

/-- Whether a token, or one that it descends from, was cancelled. A token descends from an earlier
one. -/
def tokenCancelled (tokens : List Token) (i : Nat) : Bool :=
  match tokens[i]? with
  | none => false
  | some t =>
    t.cancelled ||
      match t.parent with
      | none => false
      | some p => if p < i then tokenCancelled tokens p else false
termination_by i

/-- Whether a context is cancelled. -/
def isCancelled (s : Contexts) (c : Context) : Bool := tokenCancelled s.tokens c.token

/-- The contexts with one more, whose number is given too. -/
def push (s : Contexts) (c : Context) : Nat × Contexts :=
  (s.contexts.length, { s with contexts := s.contexts ++ [c] })

/-- The contexts with one more, which has a token of its own. -/
def pushFresh (s : Contexts) (parent : Option Nat) (deadline : Option Time) : Nat × Contexts :=
  push { s with tokens := s.tokens ++ [⟨parent, false⟩] } ⟨s.tokens.length, deadline⟩

/-- The earlier of two deadlines. -/
def tighten : Option Time → Option Time → Option Time
  | none, d => d
  | d, none => d
  | some a, some b => some (min a b)

/-- The deadline that a timeout sets, if the clock can show it. -/
def timeoutDeadline (s : Contexts) (duration : Nat) : Option Time := Clock.after? s.now duration

/-- A new context that nothing ends. -/
def background (s : Contexts) : Nat × Contexts := s.pushFresh none none

/-- A new context with a timeout. -/
def withTimeout (s : Contexts) (duration : Nat) : Nat × Contexts :=
  s.pushFresh none (s.timeoutDeadline duration)

/-- A context with the same token and deadline. -/
def clone (s : Contexts) (c : Context) : Nat × Contexts := s.push c

/-- A context with the same deadline and a token that descends from this one's. -/
def child (s : Contexts) (c : Context) : Nat × Contexts := s.pushFresh (some c.token) c.deadline

/-- A context with the same token and a deadline that a timeout may have made earlier. -/
def timeout (s : Contexts) (c : Context) (duration : Nat) : Nat × Contexts :=
  s.push { c with deadline := tighten c.deadline (s.timeoutDeadline duration) }

/-- A context with the same token and a deadline that a given time may have made earlier. -/
def deadline (s : Contexts) (c : Context) (time : Time) : Nat × Contexts :=
  s.push { c with deadline := tighten c.deadline (some time) }

/-- A context with the same token and no deadline. -/
def withToken (s : Contexts) (c : Context) : Nat × Contexts := s.push ⟨c.token, none⟩

/-- A context without deadline whose token descends from this one's. -/
def withChildToken (s : Contexts) (c : Context) : Nat × Contexts :=
  s.pushFresh (some c.token) none

/-- Cancels the token of a context. -/
def cancel (s : Contexts) (c : Context) : Contexts :=
  { s with tokens := s.tokens.modify c.token fun t => { t with cancelled := true } }

/-- Lets time pass. -/
def advance (s : Contexts) (duration : Nat) : Contexts := { s with now := s.now + duration }

/-- The time that a context has left, if it has a deadline. -/
def remaining? (s : Contexts) (c : Context) : Option Nat := c.deadline.map fun d => d - s.now

/-- What may end a call that is made now under a context that stays as it is. -/
def limits (s : Contexts) (c : Context) : Limits :=
  ⟨if s.isCancelled c then some s.now else none, c.deadline⟩

end Contexts
end RecordSync
