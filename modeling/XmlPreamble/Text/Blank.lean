/-!
# Blank characters

The characters with the Unicode property White_Space, of which there are twenty-five.  Properties
are given by ranges of code points.

Main statement:

- `inRanges_eq_false_of_lt`: no range holds a character before the first code of every range.
-/

namespace XmlPreamble.Text

/-- The code points with the property White_Space, as ranges with both ends included. -/
def blankRanges : List (Nat × Nat) :=
  [(0x0009, 0x000D), (0x0020, 0x0020), (0x0085, 0x0085), (0x00A0, 0x00A0), (0x1680, 0x1680),
   (0x2000, 0x200A), (0x2028, 0x2029), (0x202F, 0x202F), (0x205F, 0x205F), (0x3000, 0x3000)]

/-- Whether one of the ranges holds the character. -/
def inRanges (ranges : List (Nat × Nat)) (c : Char) : Bool :=
  ranges.any fun range => range.1 ≤ c.toNat && c.toNat ≤ range.2

/-- No range holds a character before the first code of every range. -/
theorem inRanges_eq_false_of_lt
    {ranges : List (Nat × Nat)}
    {bound : Nat}
    {c : Char}
    (hbound : ∀ range ∈ ranges, bound ≤ range.1)
    (h : c.toNat < bound) :
    inRanges ranges c = false := by
  rw [inRanges, List.any_eq_false]
  intro range hmem
  have := hbound range hmem
  simp only [Bool.and_eq_true, decide_eq_true_eq]
  omega

/-- Whether a character has the property White_Space. -/
def isBlank (c : Char) : Bool :=
  inRanges blankRanges c

end XmlPreamble.Text
