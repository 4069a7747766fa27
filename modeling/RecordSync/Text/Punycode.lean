import RecordSync.Json.Parser

/-!
# Letters of other scripts in ASCII

A label of a domain name can spell characters beyond ASCII by letters and digits. The characters of
ASCII come first, up to the last hyphen. Then each number, in digits of base 36 whose weights adapt
to the numbers before, says how many places to go from one insertion to the next, where a place is a
code point and a gap of the text so far.

Key definitions: `Punycode.decode?`.
-/
namespace RecordSync
namespace Punycode

/-- The value of a digit: a letter from 0 on, a decimal digit from 26 on. -/
def digit? (c : Char) : Option Nat :=
  let n := c.toLower.toNat
  if 0x61 ≤ n ∧ n ≤ 0x7A then some (n - 0x61)
  else if 0x30 ≤ n ∧ n ≤ 0x39 then some (n - 0x30 + 26)
  else none

/-- The digit from which on a number goes on behind the place of a weight. -/
def threshold (place bias : Nat) : Nat := min 26 (max 1 (place - bias))

/-- The bias for a scaled step. -/
def biasOf (base delta : Nat) : Nat :=
  if 455 < delta then biasOf (base + 36) (delta / 35) else base + 36 * delta / (delta + 38)
termination_by delta

/-- The bias for the next number after a step to a text of a length. -/
def adapt (isFirst : Bool) (step length : Nat) : Nat :=
  let scaled := step / (if isFirst then 700 else 2)
  biasOf 0 (scaled + scaled / length)

/-- What is known within a number. -/
structure Progress where
  /-- The text so far. -/
  text : List Char
  code : Nat := 128
  /-- The place of the last insertion, and how far the number goes from the first place on. -/
  start : Nat := 0
  index : Nat := 0
  weight : Nat := 1
  place : Nat := 36
  bias : Nat := 72

/-- The progress after the last digit of a number, which inserts a character. -/
def Progress.insert? (p : Progress) (index : Nat) : Option Progress := do
  let length := p.text.length + 1
  let code := p.code + index / length
  let gap := index % length
  let c ← Json.scalar? code
  some {
    text := p.text.take gap ++ c :: p.text.drop gap
    code := code
    start := gap + 1
    index := gap + 1
    bias := adapt (p.start == 0) (index - p.start) length }

/-- Reads digits up to the end of the last number. -/
def readDigits? (p : Progress) : List Char → Option (List Char)
  | [] => if p.place = 36 then some p.text else none
  | c :: cs => do
    let d ← digit? c
    let t := threshold p.place p.bias
    let index := p.index + d * p.weight
    if d < t then readDigits? (← p.insert? index) cs
    else
      readDigits? { p with index := index, weight := p.weight * (36 - t), place := p.place + 36 } cs

/-- What stands behind the last hyphen. -/
def digits (cs : List Char) : List Char := (cs.reverse.takeWhile (· != '-')).reverse

/-- The text that a label spells. -/
def decode? (cs : List Char) : Option (List Char) :=
  let ds := digits cs
  readDigits? { text := cs.take (cs.length - ds.length - 1) } ds

end Punycode
end RecordSync
