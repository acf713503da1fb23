/-!
# Numeric addresses

A host can be given by number.  A dotted address has up to four parts, each written in the
decimal, the octal or the hexadecimal system, and the last part fills the bytes that are left.  An
address in brackets has eight groups of hexadecimal digits, of which a run of groups that are
zero may be left out once, and the last two of which may be written as a dotted address.
-/

namespace XmlPreamble.Location

/-- The value of a digit in a base up to sixteen, with letters in either case. -/
def digitValue? (base : Nat) (c : Char) : Option Nat :=
  let value? :=
    if '0' ≤ c ∧ c ≤ '9' then some (c.toNat - '0'.toNat)
    else if 'a' ≤ c ∧ c ≤ 'f' then some (c.toNat - 'a'.toNat + 10)
    else if 'A' ≤ c ∧ c ≤ 'F' then some (c.toNat - 'A'.toNat + 10)
    else none
  value?.filter (· < base)

/-- The number that digits spell in a base, if they all are digits of that base. -/
def numeral? (base : Nat) (digits : List Char) : Option Nat :=
  digits.foldlM (fun n c => (digitValue? base c).map (n * base + ·)) 0

namespace Dotted

/-- The number that a part spells.  A leading `0x` announces the hexadecimal system, and a
leading zero before further digits the octal one. -/
def number? : List Char → Option Nat
  | [] => none
  | '0' :: 'x' :: digits => numeral? 16 digits
  | '0' :: 'X' :: digits => numeral? 16 digits
  | '0' :: digit :: digits => numeral? 8 (digit :: digits)
  | digits => numeral? 10 digits

/-- The parts of a name that count: an empty part at the end is passed over. -/
def withoutLastEmpty (parts : List (List Char)) : List (List Char) :=
  if parts.getLast? = some [] then parts.dropLast else parts

/-- Whether a name ends in a number, so that it has to be an address. -/
def endsInNumber (parts : List (List Char)) : Bool :=
  match (withoutLastEmpty parts).getLast? with
  | none => false
  | some part => (!part.isEmpty && part.all Char.isDigit) || (number? part).isSome

/-- Whether numbers make an address: all but the last fill one byte each, and the last one fills
what is left of four bytes. -/
def fitsAddress (numbers : List Nat) : Bool :=
  numbers.length ≤ 4 &&
    numbers.dropLast.all (· < 256) &&
    (numbers.getLast?).all (· < Nat.pow 256 (5 - numbers.length))

/-- Whether the parts of a name make an address. -/
def isAddress (parts : List (List Char)) : Bool :=
  match (withoutLastEmpty parts).mapM number? with
  | none => false
  | some numbers => fitsAddress numbers

end Dotted

namespace Grouped

/-- Whether a text is a decimal number of a byte, without leading zeros. -/
def isByteNumeral : List Char → Bool
  | [] => false
  | ['0'] => true
  | '0' :: _ :: _ => false
  | digits => (numeral? 10 digits).any (· < 256)

/-- Whether a text is the dotted address that may stand for the last two groups. -/
def isDottedTail (text : List Char) : Bool :=
  let parts := text.splitOnP (· = '.')
  parts.length = 4 && parts.all isByteNumeral

/-- Whether a character is a hexadecimal digit. -/
def isHexDigit (c : Char) : Bool :=
  (digitValue? 16 c).isSome

/-- Reads groups on, `groups` of which stand before the text.  `shortened` says whether a run of
groups has been left out already. -/
def readGroups (shortened : Bool) (groups : Nat) (text : List Char) : Bool :=
  match text with
  | [] => shortened || groups = 8
  | first :: rest =>
      if groups = 8 then false
      else if first = ':' then
        !shortened && readGroups true (groups + 1) rest
      else
        let group := ((first :: rest).takeWhile isHexDigit).take 4
        match _h : (first :: rest).drop group.length with
        | [] => shortened || groups + 1 = 8
        | '.' :: _ =>
            !group.isEmpty && groups ≤ 6 && isDottedTail (first :: rest) &&
              (shortened || groups + 2 = 8)
        | ':' :: next =>
            !group.isEmpty && !next.isEmpty && readGroups shortened (groups + 1) next
        | _ :: _ => false
termination_by text.length
decreasing_by
  · simp
  · have := congrArg List.length _h
    simp only [List.length_drop, List.length_cons] at this ⊢
    omega

/-- Whether the text between two brackets is an address. -/
def isAddress : List Char → Bool
  | [] => false
  | [_] => false
  | ':' :: ':' :: rest => readGroups true 1 rest
  | ':' :: _ => false
  | text => readGroups false 0 text

end Grouped

end XmlPreamble.Location
