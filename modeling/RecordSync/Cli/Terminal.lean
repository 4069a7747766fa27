import RecordSync.Text.Bytes

/-!
# Text without terminal control

What is written may hold sequences by which a terminal is told to change a colour, to move or to
show a title. They start with an escape character: a single character may follow, or a control
sequence up to its final character, or a string up to its end. What is left without them is the
plain text, where of the control characters only white space stays.

Key definitions: `Terminal.marked`, `Terminal.State`, `Terminal.State.next?`, `Terminal.plain`.
-/
namespace RecordSync
namespace Terminal

/-- A text in another colour. -/
def marked (s : String) : String := "\x1b[33m" ++ s ++ "\x1b[0m"

/-- Where in a sequence a text stands. -/
inductive State where
  /-- Outside all sequences. -/
  | ground
  /-- Behind an escape character. -/
  | escape
  /-- Behind an escape character and a character that announces a last one. -/
  | escapeMiddle
  /-- In a control sequence. -/
  | control
  /-- In front of a string for a device, in its numbers, or behind a character that announces its
  start. -/
  | deviceStart
  | deviceNumbers
  | deviceMiddle
  /-- In a string for a device, or in one that has no meaning. -/
  | device
  | ignored
  /-- In a command for the system around the terminal. -/
  | system
  deriving DecidableEq, Repr

namespace State

/-- Whether a code is within bounds. -/
def within (least greatest : Nat) (c : Char) : Bool := least ≤ c.toNat && c.toNat ≤ greatest

/-- Whether a string that the byte 9C ends is ended by a character. -/
def endsString (c : Char) : Bool :=
  0x80 ≤ c.toNat && (Text.bytes (String.singleton c)).contains 0x9C

/-- The state that a character leads to from this one; nothing if it makes no difference. -/
def next? (s : State) (c : Char) : Option State :=
  if c = '\x18' ∨ c = '\x1a' then some .ground
  else if c = '\x1b' then some .escape
  else
    match s with
    | .ground => if within 0x80 0x10FFFF c then some .ground else none
    | .escape =>
      if within 0x20 0x2F c then some .escapeMiddle
      else if c = '[' then some .control
      else if c = ']' then some .system
      else if c = 'P' then some .deviceStart
      else if c = 'X' ∨ c = '^' ∨ c = '_' then some .ignored
      else if within 0x30 0x7E c then some .ground
      else none
    | .escapeMiddle => if within 0x30 0x7E c then some .ground else none
    | .control => if within 0x40 0x7E c then some .ground else none
    | .deviceStart =>
      if within 0x20 0x2F c then some .deviceMiddle
      else if c = ':' ∨ within 0x40 0x7E c then some .device
      else if within 0x30 0x3F c then some .deviceNumbers
      else none
    | .deviceNumbers =>
      if within 0x20 0x2F c then some .deviceMiddle
      else if c = ':' ∨ within 0x3C 0x7E c then some .device
      else none
    | .deviceMiddle => if within 0x30 0x7E c then some .device else none
    | .device => if endsString c then some .ground else none
    | .ignored => if endsString c then some .ground else none
    | .system => if c = '\x07' then some .ground else none

/-- The state after a character. -/
def after (s : State) (c : Char) : State := (s.next? c).getD s

/-- Whether white space counts in this state though no other character does. -/
def showsSpace (s : State) : Bool := s matches .ground | .escape | .escapeMiddle | .control

/-- Whether a character in this state is a part of the plain text. -/
def shows (s : State) (c : Char) : Bool :=
  if c = '\t' ∨ c = '\n' ∨ c = '\x0c' ∨ c = '\r' then s.showsSpace
  else s = .ground && 0x20 ≤ c.toNat && c.toNat != 0x7F

end State

/--
The characters that are shown. In a run of shown characters every character is taken for one outside
all sequences; the run ends at the first that is not shown, and that one is taken up in the state
that was left when the run began, unless the run or its end has changed it.
-/
def plainFrom (running : Bool) (s : State) : List Char → List Char
  | [] => []
  | c :: cs =>
    if running && State.ground.shows c then
      c :: plainFrom true ((State.ground.next? c).getD s) cs
    else
      let s := if running then (State.ground.next? c).getD s else s
      if s.shows c then c :: plainFrom true (s.after c) cs else plainFrom false (s.after c) cs

/-- The text without terminal control. -/
def plain (s : String) : String := String.ofList (plainFrom false .ground s.toList)

end Terminal
end RecordSync
