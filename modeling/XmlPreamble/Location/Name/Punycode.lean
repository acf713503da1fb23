/-!
# Names outside ASCII in ASCII letters

A label outside ASCII is written as its ASCII characters, a hyphen, and a chain of numbers.  Each
number says how far to walk, round after round through the places of the label, until the next
character is put in; every full round raises the code of that character by one.  Digits are
letters and decimal digits, the last digit of a number is the first one below a threshold, and
thresholds follow a bias that adapts to the numbers read.  Numbers are held in thirty-two bits.
-/

namespace XmlPreamble.Location.Name.Punycode

/-- The value of a digit: letters count from zero, decimal digits from twenty-six. -/
def digitValue? (c : Char) : Option Nat :=
  if 'a' ≤ c ∧ c ≤ 'z' then some (c.toNat - 'a'.toNat)
  else if 'A' ≤ c ∧ c ≤ 'Z' then some (c.toNat - 'A'.toNat)
  else if '0' ≤ c ∧ c ≤ '9' then some (c.toNat - '0'.toNat + 26)
  else none

/-- The threshold at a place of a number. -/
def threshold (place bias : Nat) : Nat :=
  min 26 (max 1 (place - bias))

/-- Divides by thirty-five until the number is small enough, counting the divisions by
thirty-sixes. -/
def scaleDown (delta places : Nat) : Nat × Nat :=
  if 455 < delta then scaleDown (delta / 35) (places + 36) else (delta, places)
termination_by delta
decreasing_by omega

/-- The bias after a number: `delta` is what was walked, `count` the characters there are now. -/
def adapt (delta count : Nat) (first : Bool) : Nat :=
  let damped := if first then delta / 700 else delta / 2
  let scaled := scaleDown (damped + damped / count) 0
  scaled.2 + 36 * scaled.1 / (scaled.1 + 38)

/-- A label that is being read. -/
structure Reading where
  /-- The characters put in so far. -/
  text : List Char
  /-- The code of the character put in last. -/
  code : Nat := 0x80
  /-- Where the current walk began. -/
  start : Nat := 0
  /-- How far the current walk has gone, counted from the front of the label. -/
  walked : Nat := 0
  /-- The weight of the next digit. -/
  weight : Nat := 1
  /-- The place of the next digit. -/
  place : Nat := 36
  /-- The bias of the current number. -/
  bias : Nat := 72
  deriving DecidableEq, Repr

/-- Puts in the character at which the walk has ended, unless its code is no character. -/
def Reading.insert? (reading : Reading) : Option Reading :=
  let count := reading.text.length + 1
  let code := reading.code + reading.walked / count
  let index := reading.walked % count
  if code < 0xD800 ∨ (0xE000 ≤ code ∧ code < 0x110000) then
    some {
      text := reading.text.insertIdx index (Char.ofNat code)
      code := code
      start := index + 1
      walked := index + 1
      bias := adapt (reading.walked - reading.start) count (reading.start = 0) }
  else
    none

/-- Whether a number can be held in thirty-two bits. -/
def fits (number : Nat) : Bool :=
  number < 0x100000000

/-- Reads one digit. -/
def Reading.step? (reading : Reading) (c : Char) : Option Reading :=
  match digitValue? c with
  | none => none
  | some digit =>
      let walked := reading.walked + digit * reading.weight
      let limit := threshold reading.place reading.bias
      let weight := reading.weight * (36 - limit)
      if !fits walked then
        none
      else if digit < limit then
        ({ reading with walked := walked }).insert?
      else if fits weight then
        some { reading with walked := walked, weight := weight, place := reading.place + 36 }
      else
        none

/-- The label whose ASCII characters and whose numbers are given. -/
def decodeParts? (basic numbers : List Char) : Option (List Char) := do
  let reading ← numbers.foldlM Reading.step? { text := basic }
  if numbers.isEmpty ∨ reading.place ≠ 36 then none else some reading.text

/-- The label that a text spells.  The last hyphen, if there is one, ends the ASCII characters,
of which there must be some then. -/
def decode? (text : List Char) : Option (List Char) :=
  let numbers := (text.reverse.takeWhile (· ≠ '-')).reverse
  if numbers.length = text.length then
    decodeParts? [] numbers
  else
    let basic := text.take (text.length - numbers.length - 1)
    if basic.isEmpty then none else decodeParts? basic numbers

end XmlPreamble.Location.Name.Punycode
