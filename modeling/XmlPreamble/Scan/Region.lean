import XmlPreamble.Scan.Comment

/-!
# Comment regions of lines

Where comments lie when lines are read letter by letter, from left to right: outside a comment the
next opening token begins one, inside a comment the next closing token ends it, and a comment that
is open at the end of a line goes on with the next.  What a scan of the lines finds is measured
against the stretches that lie outside.

Main statements:

- `regionsFrom_of_no_opening`: outside a comment, a line without an opening token lies outside as a
  whole;
- `regions_of_plain_inside`: inside a comment, a line without comment tokens lies inside as a whole.
-/

namespace XmlPreamble.Scan

open Text

/-- The comment regions of a line. -/
structure Regions where
  /-- The stretches that lie outside every comment, in order. -/
  outside : List (List Char)
  /-- Whether a comment is open at the end. -/
  inComment : Bool
  deriving DecidableEq, Repr

/-- The regions with one more stretch outside before them. -/
def Regions.after (regions : Regions) (stretch : List Char) : Regions :=
  { regions with outside := stretch :: regions.outside }

/-- The regions of the rest of a line.  Outside a comment, the letters of `stretch`, in reverse
order, stand directly before it. -/
def regionsFrom : Bool → List Char → List Char → Regions
  | false, stretch, [] => ⟨[stretch.reverse], false⟩
  | true, _, [] => ⟨[], true⟩
  | false, stretch, '<' :: '!' :: '-' :: '-' :: rest =>
      (regionsFrom true [] rest).after stretch.reverse
  | true, _, '-' :: '-' :: '>' :: rest => regionsFrom false [] rest
  | false, stretch, letter :: rest => regionsFrom false (letter :: stretch) rest
  | true, _, _ :: rest => regionsFrom true [] rest

/-- The comment regions of a line that begins inside a comment or does not. -/
def regions (inComment : Bool) (line : List Char) : Regions :=
  regionsFrom inComment [] line

/-- Whether a comment is open behind lines. -/
def openBehind (inComment : Bool) (lines : List (List Char)) : Bool :=
  lines.foldl (fun flag line => (regions flag line).inComment) inComment

section Laws

theorem regionsFrom_of_no_opening
    {line stretch : List Char}
    (h : containsToken openingToken line = false) :
    regionsFrom false stretch line = ⟨[stretch.reverse ++ line], false⟩ := by
  induction line generalizing stretch with
  | nil =>
      simp [regionsFrom]
  | cons letter rest ih =>
      obtain ⟨hp, hrest⟩ := containsToken_cons_eq_false h
      unfold regionsFrom
      split
      · contradiction
      · contradiction
      · rename_i heq
        rw [heq] at hp
        simp [openingToken] at hp
      · contradiction
      · rename_i heq
        cases heq
        simp [ih hrest]
      · contradiction

theorem regionsFrom_of_no_closing
    {line stretch : List Char}
    (h : containsToken closingToken line = false) :
    regionsFrom true stretch line = ⟨[], true⟩ := by
  induction line generalizing stretch with
  | nil =>
      rfl
  | cons letter rest ih =>
      obtain ⟨hp, hrest⟩ := containsToken_cons_eq_false h
      unfold regionsFrom
      split
      · contradiction
      · contradiction
      · contradiction
      · rename_i heq
        rw [heq] at hp
        simp [closingToken] at hp
      · contradiction
      · rename_i heq
        cases heq
        exact ih hrest

/-- Inside a comment, a line without comment tokens lies inside as a whole. -/
theorem regions_of_plain_inside
    {line : List Char}
    (h : plain line = true) :
    regions true line = ⟨[], true⟩ := by
  simp only [plain, Bool.and_eq_true, Bool.not_eq_true'] at h
  exact regionsFrom_of_no_closing h.2

end Laws

end XmlPreamble.Scan
