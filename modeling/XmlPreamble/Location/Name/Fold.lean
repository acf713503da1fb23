import XmlPreamble.Location.Name.Fold.Run
import XmlPreamble.Location.Name.Fold.Word
import XmlPreamble.Text.Blank

/-!
# Folding the characters of a name

Names are compared without regard to case and style.  Each character stands for a text in small
letters and in the plain style; most characters stand for themselves, and some that are invisible
count for nothing.

Main statement:

- `fold_of_lt`: in ASCII only capital letters stand for something else.
-/

namespace XmlPreamble.Location.Name

open Text

/-- The characters that count for nothing, as increasing ranges with both ends included. -/
def droppedRanges : List (Nat × Nat) :=
  [(0x00AD, 0x00AD), (0x034F, 0x034F), (0x115F, 0x1160), (0x17B4, 0x17B5), (0x180B, 0x180F),
   (0x200B, 0x200B), (0x2060, 0x2064), (0x206A, 0x206F), (0x3164, 0x3164), (0xFE00, 0xFE0F),
   (0xFEFF, 0xFEFF), (0xFFA0, 0xFFA0), (0x1BCA0, 0x1BCA3), (0x1D173, 0x1D17A), (0xE0001, 0xE0001),
   (0xE0020, 0xE007F), (0xE0100, 0xE01EF)]

/-- The text that a character stands for. -/
def fold (c : Char) : List Char :=
  if c.toNat < 0x80 then
    [c.toLower]
  else
    match foldedRuns.find? fun run => run.holds c.toNat with
    | some run => [run.targetOf c.toNat]
    | none =>
        match foldedWord? c.toNat with
        | some word => word
        | none => if inRanges droppedRanges c then [] else [c]

/-- In ASCII only capital letters stand for something else. -/
theorem fold_of_lt
    {c : Char}
    (h : c.toNat < 0x80) :
    fold c = [c.toLower] := by
  rw [fold, if_pos h]

end XmlPreamble.Location.Name
