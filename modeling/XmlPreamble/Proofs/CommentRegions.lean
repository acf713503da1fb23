import Mathlib.Data.List.Infix
import XmlPreamble.Scan.Line
import XmlPreamble.Scan.Region

/-!
# Comment regions where a scan cuts a line

A scan jumps from comment token to comment token, and it stops at a place that it takes to be
outside; the regions of a line are read letter by letter.  This module connects the two readings.
A jump over a token is a step of the regions, and a line may be cut behind a `>`: no token lies
across such a cut, so that the regions of the two parts are those of the line.

Main statements:

- `regionsFrom_jump_opening` and `regionsFrom_jump_closing`: the regions follow a jump;
- `regionsFrom_joins`: what a line that is cut shows outside its comments, one of its parts shows,
  and the second part leaves the comment flag behind that the line does.
-/

namespace XmlPreamble

namespace Text

variable {α : Type} [DecidableEq α]
variable {token text rest : List α}

/-- A token is found in a text exactly when it occurs there. -/
theorem containsToken_iff_infix : containsToken token text = true ↔ token <:+: text := by
  rw [containsToken]
  induction text with
  | nil =>
      cases token <;> simp [afterFirst?]
  | cons letter text ih =>
      rw [List.infix_cons_iff, ← ih, afterFirst?]
      split
      · rename_i hfront
        simp [List.isPrefixOf_iff_prefix.1 hfront]
      · rename_i hfront
        rw [List.isPrefixOf_iff_prefix] at hfront
        simp [hfront]

/-- What is found is the first occurrence: in front of its last letter the token does not occur. -/
theorem exists_before_of_afterFirst?
    (hne : token ≠ [])
    (h : afterFirst? token text = some rest) :
    ∃ before, text = before ++ token ++ rest ∧
      containsToken token (before ++ token.dropLast) = false := by
  induction text with
  | nil =>
      cases token with
      | nil => exact absurd rfl hne
      | cons => simp [afterFirst?] at h
  | cons letter text ih =>
      rw [afterFirst?] at h
      split at h
      · rename_i hfront
        obtain ⟨tail, htail⟩ := List.isPrefixOf_iff_prefix.1 hfront
        refine ⟨[], ?_, ?_⟩
        · rw [← htail] at h ⊢
          rw [List.drop_left, Option.some.injEq] at h
          rw [h, List.nil_append]
        · rw [Bool.eq_false_iff, Ne, containsToken_iff_infix]
          intro hinfix
          have hlen := hinfix.length_le
          have hpos := List.length_pos_iff.2 hne
          rw [List.nil_append, List.length_dropLast] at hlen
          omega
      · rename_i hfront
        obtain ⟨before, hbefore, hfirst⟩ := ih h
        refine ⟨letter :: before, by rw [hbefore]; rfl, ?_⟩
        rw [Bool.eq_false_iff, Ne, containsToken_iff_infix, List.cons_append,
          List.infix_cons_iff, ← containsToken_iff_infix, hfirst]
        rintro (hbegin | hfalse)
        · apply hfront
          rw [List.isPrefixOf_iff_prefix, hbefore]
          refine hbegin.trans ?_
          have hsplit : token = token.dropLast ++ [token.getLast hne] :=
            (List.dropLast_concat_getLast hne).symm
          refine ⟨[token.getLast hne] ++ rest, ?_⟩
          conv_rhs => rw [hsplit]
          simp
        · cases hfalse

end Text

namespace Scan

open Text

section Jumps

variable {before rest : List Char}

/-- Outside, a letter with which no comment opens belongs to the stretch. -/
theorem regionsFrom_cons_outside
    {letter : Char}
    {stretch : List Char}
    (h : openingToken.isPrefixOf (letter :: rest) = false) :
    regionsFrom false stretch (letter :: rest) = regionsFrom false (letter :: stretch) rest := by
  rw [regionsFrom.eq_def]
  split
  · contradiction
  · contradiction
  · rename_i heq
    rw [heq] at h
    simp [openingToken] at h
  · contradiction
  · rename_i heq
    cases heq
    rfl
  · contradiction

/-- Inside, a letter with which the comment does not close is passed over. -/
theorem regionsFrom_cons_inside
    {letter : Char}
    {stretch : List Char}
    (h : closingToken.isPrefixOf (letter :: rest) = false) :
    regionsFrom true stretch (letter :: rest) = regions true rest := by
  rw [regionsFrom.eq_def]
  split
  · contradiction
  · contradiction
  · contradiction
  · rename_i heq
    rw [heq] at h
    simp [closingToken] at h
  · contradiction
  · rename_i heq
    cases heq
    rfl

/-- Inside, there is no stretch in front. -/
theorem regionsFrom_inside
    (stretch text : List Char) :
    regionsFrom true stretch text = regions true text := by
  rw [regions, regionsFrom.eq_def, regionsFrom.eq_def true []]
  split <;> first | contradiction | rfl

/-- A token that does not occur in front of its last letter does not begin there either. -/
theorem isPrefixOf_eq_false_of_first
    {token : List Char}
    {letter : Char}
    (rest : List Char)
    (hne : token ≠ [])
    (h : containsToken token (letter :: (before ++ token.dropLast)) = false) :
    token.isPrefixOf (letter :: (before ++ token ++ rest)) = false := by
  have hfront := (containsToken_cons_eq_false h).1
  have hsplit : letter :: (before ++ token ++ rest) =
      letter :: (before ++ token.dropLast) ++ ([token.getLast hne] ++ rest) := by
    conv_lhs => rw [← List.dropLast_concat_getLast hne]
    simp
  rw [Bool.eq_false_iff, Ne, List.isPrefixOf_iff_prefix] at hfront ⊢
  intro hbegin
  apply hfront
  rw [hsplit] at hbegin
  refine List.prefix_of_prefix_length_le hbegin (List.prefix_append _ _) ?_
  rw [List.length_cons, List.length_append, List.length_dropLast]
  omega

/-- Outside, the regions follow a jump to the next opening. -/
theorem regionsFrom_jump_opening
    (stretch rest : List Char)
    (h : containsToken openingToken (before ++ openingToken.dropLast) = false) :
    regionsFrom false stretch (before ++ openingToken ++ rest) =
      (regions true rest).after (stretch.reverse ++ before) := by
  induction before generalizing stretch with
  | nil =>
      rw [List.append_nil]
      rfl
  | cons letter before ih =>
      have hfront := isPrefixOf_eq_false_of_first rest (by decide) h
      rw [List.cons_append, List.cons_append, regionsFrom_cons_outside hfront,
        ih _ (containsToken_cons_eq_false h).2]
      simp

/-- Inside, the regions follow a jump to the next closing. -/
theorem regionsFrom_jump_closing
    (stretch rest : List Char)
    (h : containsToken closingToken (before ++ closingToken.dropLast) = false) :
    regionsFrom true stretch (before ++ closingToken ++ rest) = regions false rest := by
  induction before generalizing stretch with
  | nil =>
      rfl
  | cons letter before ih =>
      have hfront := isPrefixOf_eq_false_of_first rest (by decide) h
      rw [List.cons_append, List.cons_append, regionsFrom_cons_inside hfront]
      exact ih [] (containsToken_cons_eq_false h).2

end Jumps

section Cuts

variable {front rest left right : List Char}

/-- A line can be cut behind a `>`, and at its beginning. -/
def Cut (front : List Char) : Prop :=
  ∀ letter, front.getLast? = some letter → letter = '>'

theorem Cut.of_append
    (left : List Char)
    (h : Cut (left ++ right)) :
    Cut right := by
  intro letter hletter
  apply h
  rw [List.getLast?_append, hletter]
  rfl

/-- A token without a `>` in front of its last letter does not begin, when more comes behind a cut,
where it did not begin before. -/
theorem isPrefixOf_append_eq_false
    {token : List Char}
    (rest : List Char)
    (htoken : '>' ∉ token.dropLast)
    (hne : front ≠ [])
    (hcut : Cut front)
    (h : token.isPrefixOf front = false) :
    token.isPrefixOf (front ++ rest) = false := by
  rw [Bool.eq_false_iff, Ne, List.isPrefixOf_iff_prefix] at h ⊢
  intro hbegin
  by_cases hlen : token.length ≤ front.length
  · exact h (List.prefix_of_prefix_length_le hbegin (List.prefix_append front rest) hlen)
  · -- The cut would lie within the token, and the `>` in front of it before its last letter.
    have hshort : front <+: token :=
      List.prefix_of_prefix_length_le (List.prefix_append front rest) hbegin (by omega)
    have hne' : token ≠ [] := by
      rintro rfl
      exact hlen (Nat.zero_le _)
    rw [← List.dropLast_concat_getLast hne', List.prefix_concat_iff] at hshort
    rcases hshort with heq | hshort
    · have := congrArg List.length heq
      rw [List.dropLast_concat_getLast hne'] at this
      omega
    · have hlast := hcut _ (List.getLast?_eq_some_getLast hne)
      exact htoken (hshort.subset (hlast ▸ List.getLast_mem hne))

/-- A token without a `>` does not lie across a cut. -/
theorem infix_append_iff_of_cut
    {token : List Char}
    (htoken : '>' ∉ token)
    (hcut : Cut left) :
    token <:+: left ++ right ↔ token <:+: left ∨ token <:+: right := by
  rw [List.infix_append_iff_ne_nil]
  constructor
  · rintro (h | h | ⟨front, rest, hfront, -, htok, hleft, -⟩)
    · exact Or.inl h
    · exact Or.inr h
    · have hlast : left.getLast? = some (front.getLast hfront) := by
        obtain ⟨before, rfl⟩ := hleft
        rw [List.getLast?_append, List.getLast?_eq_some_getLast hfront]
        rfl
      refine absurd ?_ htoken
      rw [htok, ← hcut _ hlast]
      exact List.mem_append_left rest (List.getLast_mem hfront)
  · rintro (h | h)
    · exact Or.inl h
    · exact Or.inr (Or.inl h)

end Cuts

section Evidence

/-- Whether a text shows what a verdict says. -/
def Verdict.ShownIn : Verdict → List Char → Prop
  | .proceed, _ => False
  | .doctype, text => doctypeToken <:+: text
  | .openingTag, text => ∃ letter, isLetter letter = true ∧ ['<', letter] <:+: text

/-- Whether a stretch outside every comment shows what a verdict says. -/
def Regions.Show
    (regions : Regions)
    (verdict : Verdict) : Prop :=
  ∃ stretch ∈ regions.outside, verdict.ShownIn stretch

theorem ne_of_isLetter
    {letter other : Char}
    (h : isLetter letter = true)
    (hother : isLetter other = false) :
    letter ≠ other := by
  rintro rfl
  rw [h] at hother
  cases hother

/-- Nothing that a verdict can say lies across a cut. -/
theorem Verdict.shownIn_append
    {left : List Char}
    (verdict : Verdict)
    (right : List Char)
    (hcut : Cut left) :
    verdict.ShownIn (left ++ right) ↔ verdict.ShownIn left ∨ verdict.ShownIn right := by
  cases verdict with
  | proceed =>
      simp [ShownIn]
  | doctype =>
      exact infix_append_iff_of_cut (by decide) hcut
  | openingTag =>
      have hsplit : ∀ letter, isLetter letter = true →
          (['<', letter] <:+: left ++ right ↔ ['<', letter] <:+: left ∨ ['<', letter] <:+: right) := by
        intro letter hletter
        refine infix_append_iff_of_cut ?_ hcut
        have hne : letter ≠ '>' := ne_of_isLetter hletter (by decide +kernel)
        simpa [eq_comm] using hne
      constructor
      · rintro ⟨letter, hletter, h⟩
        rcases (hsplit letter hletter).1 h with h | h
        · exact Or.inl ⟨letter, hletter, h⟩
        · exact Or.inr ⟨letter, hletter, h⟩
      · rintro (⟨letter, hletter, h⟩ | ⟨letter, hletter, h⟩)
        · exact ⟨letter, hletter, (hsplit letter hletter).2 (Or.inl h)⟩
        · exact ⟨letter, hletter, (hsplit letter hletter).2 (Or.inr h)⟩

theorem Regions.show_after
    (regions : Regions)
    (stretch : List Char)
    (verdict : Verdict) :
    (regions.after stretch).Show verdict ↔ verdict.ShownIn stretch ∨ regions.Show verdict := by
  simp [Show, after]

/-- The regions of a line in terms of those of its two parts. -/
structure Regions.Joins
    (whole left right : Regions) : Prop where
  inComment : whole.inComment = right.inComment
  show_iff : ∀ verdict, whole.Show verdict ↔ left.Show verdict ∨ right.Show verdict

theorem Regions.Joins.after
    {whole left right : Regions}
    (h : whole.Joins left right)
    (stretch : List Char) :
    (whole.after stretch).Joins (left.after stretch) right := by
  refine ⟨h.inComment, ?_⟩
  intro verdict
  rw [show_after, show_after, h.show_iff, or_assoc]

end Evidence

section Joining

variable {front rest : List Char}

/-- What stands before a text that begins outside is part of its first stretch. -/
theorem exists_regionsFrom_eq
    (text : List Char) :
    ∃ first others flag,
      ∀ stretch, regionsFrom false stretch text = ⟨(stretch.reverse ++ first) :: others, flag⟩ := by
  induction text with
  | nil =>
      refine ⟨[], [], false, ?_⟩
      intro stretch
      rw [List.append_nil]
      rfl
  | cons letter text ih =>
      by_cases hopen : openingToken.isPrefixOf (letter :: text) = true
      · obtain ⟨rest, hrest⟩ := List.isPrefixOf_iff_prefix.1 hopen
        refine ⟨[], (regions true rest).outside, (regions true rest).inComment, ?_⟩
        intro stretch
        rw [← hrest, List.append_nil]
        rfl
      · obtain ⟨first, others, flag, hregions⟩ := ih
        refine ⟨letter :: first, others, flag, ?_⟩
        intro stretch
        rw [regionsFrom_cons_outside (Bool.eq_false_iff.2 hopen), hregions]
        simp

/-- A stretch that ends at a cut joins the text behind it. -/
theorem joins_of_cut_stretch
    {stretch : List Char}
    (rest : List Char)
    (hcut : Cut stretch.reverse) :
    (regionsFrom false stretch rest).Joins ⟨[stretch.reverse], false⟩ (regions false rest) := by
  obtain ⟨first, others, flag, hregions⟩ := exists_regionsFrom_eq rest
  rw [regions, hregions, hregions]
  refine ⟨rfl, ?_⟩
  intro verdict
  simp only [Regions.Show, List.mem_cons, List.not_mem_nil, or_false, exists_eq_or_imp,
    exists_eq_left, List.reverse_nil, List.nil_append, verdict.shownIn_append first hcut, or_assoc]

/-- The two parts of a line that is cut join again. -/
theorem regionsFrom_joins
    {inComment : Bool}
    {stretch : List Char}
    (rest : List Char)
    (hcut : Cut (stretch.reverse ++ front)) :
    (regionsFrom inComment stretch (front ++ rest)).Joins (regionsFrom inComment stretch front)
      (regions (regionsFrom inComment stretch front).inComment rest) := by
  -- The induction is on the part in front of the cut.  When it has come to its end outside, the
  -- stretch that has been gathered meets the second part, hence it is carried in `hcut`.
  fun_induction regionsFrom inComment stretch front with
  | case1 stretch =>
      rw [List.append_nil] at hcut
      exact joins_of_cut_stretch rest hcut
  | case2 stretch =>
      rw [List.nil_append, regionsFrom_inside]
      exact ⟨rfl, fun verdict => by simp [Regions.Show]⟩
  | case3 stretch front ih =>
      have hfront : Cut front := .of_append openingToken (.of_append _ hcut)
      exact (ih hfront).after stretch.reverse
  | case4 stretch front ih =>
      have hfront : Cut front := .of_append closingToken (.of_append _ hcut)
      exact ih hfront
  | case5 stretch letter front hnot ih =>
      have hopen : openingToken.isPrefixOf (letter :: front) = false := by
        rw [Bool.eq_false_iff, Ne, List.isPrefixOf_iff_prefix]
        rintro ⟨behind, hbehind⟩
        obtain ⟨hletter, hfront⟩ := List.cons.inj hbehind
        exact hnot behind hletter.symm hfront.symm
      have happend := isPrefixOf_append_eq_false rest (by decide) (List.cons_ne_nil letter front)
        (.of_append _ hcut) hopen
      rw [List.cons_append] at happend ⊢
      rw [regionsFrom_cons_outside happend]
      refine ih ?_
      simpa using hcut
  | case6 _ letter front hnot ih =>
      have hclose : closingToken.isPrefixOf (letter :: front) = false := by
        rw [Bool.eq_false_iff, Ne, List.isPrefixOf_iff_prefix]
        rintro ⟨behind, hbehind⟩
        obtain ⟨hletter, hfront⟩ := List.cons.inj hbehind
        exact hnot behind hletter.symm hfront.symm
      have happend := isPrefixOf_append_eq_false rest (by decide) (List.cons_ne_nil letter front)
        (.of_append _ hcut) hclose
      rw [List.cons_append] at happend ⊢
      rw [regionsFrom_cons_inside happend]
      refine ih ?_
      exact .of_append [letter] (.of_append _ hcut)

end Joining

end Scan
end XmlPreamble
