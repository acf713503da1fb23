import XmlPreamble.Encoding.Basic

/-!
# Ends of lines

A line ends at a code unit that is a line feed or a carriage return.  In UTF-16 the two bytes of
the unit must lie on a unit border, counted from where the search begins, so that the byte `0A` of
some other character is never taken for a line feed.

Main statement:

- `findLineEnd_bounds`: the unit found lies at or behind the place where the search begins, and
  within the bytes.
-/

namespace XmlPreamble

open Text (Utf16.ByteOrder)

/-- A code unit that ends a line. -/
inductive Terminator where
  /-- The character U+000A. -/
  | lineFeed
  /-- The character U+000D. -/
  | carriageReturn
  deriving DecidableEq, Repr

namespace Terminator

/-- The terminator that a code unit is, if it is one. -/
def ofCode? (code : Nat) : Option Terminator :=
  if code = 0x0A then some lineFeed
  else if code = 0x0D then some carriageReturn
  else none

end Terminator

namespace Encoding

/-- The terminator that the first code unit of the bytes is, if it is one. -/
def terminator? : Encoding → Bytes → Option Terminator
  | utf8, byte :: _ => Terminator.ofCode? byte.toNat
  | utf16 order, first :: second :: _ => Terminator.ofCode? (order.unit first second).toNat
  | _, _ => none

/-- Whether the first code unit of the bytes is a carriage return. -/
def isCarriageReturn (encoding : Encoding) (bytes : Bytes) : Bool :=
  encoding.terminator? bytes == some .carriageReturn

/-- The index of the first terminator among the whole units of the bytes, counted from `index`. -/
def findLineEndFrom : Encoding → Nat → Bytes → Option Nat
  | utf8, index, byte :: rest =>
      if (Terminator.ofCode? byte.toNat).isSome then some index
      else findLineEndFrom utf8 (index + 1) rest
  | utf16 order, index, first :: second :: rest =>
      if (Terminator.ofCode? (order.unit first second).toNat).isSome then some index
      else findLineEndFrom (utf16 order) (index + 2) rest
  | _, _, _ => none

/-- The index of the first terminator at or behind `start`.  Units are counted from `start` on. -/
def findLineEnd (encoding : Encoding) (bytes : Bytes) (start : Nat) : Option Nat :=
  encoding.findLineEndFrom start (bytes.drop start)

section Laws

theorem findLineEndFrom_bounds
    {encoding : Encoding}
    {index found : Nat}
    {bytes : Bytes}
    (h : encoding.findLineEndFrom index bytes = some found) :
    index ≤ found ∧ found + encoding.unitLength ≤ index + bytes.length := by
  fun_induction findLineEndFrom encoding index bytes with
  | case1 index byte rest hend =>
      cases h
      simp only [unitLength, List.length_cons]
      omega
  | case2 index byte rest hend ih =>
      have := ih h
      simp only [unitLength, List.length_cons] at this ⊢
      omega
  | case3 order index first second rest hend =>
      cases h
      simp only [unitLength, List.length_cons]
      omega
  | case4 order index first second rest hend ih =>
      have := ih h
      simp only [unitLength, List.length_cons] at this ⊢
      omega
  | case5 =>
      cases h

/-- The unit found lies at or behind the start of the search, and within the bytes. -/
theorem findLineEnd_bounds
    {encoding : Encoding}
    {bytes : Bytes}
    {start found : Nat}
    (h : encoding.findLineEnd bytes start = some found) :
    start ≤ found ∧ found + encoding.unitLength ≤ bytes.length := by
  have hb := findLineEndFrom_bounds h
  have hu := encoding.unitLength_pos
  rw [List.length_drop] at hb
  omega

end Laws

end Encoding

end XmlPreamble
