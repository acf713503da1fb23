import XmlPreamble.Proofs.CommentRegions

/-!
# Whether what a scan sees lies outside comments

A scan takes the comments off the front of a line and looks at what is left, the residue.  Comments
further behind on the line stay in the residue, so that a verdict may rest on commented text; and a
comment which opens there and does not close on its line is taken for closed on the next one.  This
module says how much of the intended account holds in spite of this: a verdict is right about the
residue, and the place where the residue begins lies outside every comment unless an earlier line
left a comment open in its own residue.

Main statements:

- `walkComments_some` and `walkComments_none`: a walk ends with the flag that the regions have;
- `classify_inComment_iff`: a line keeps the flag of the scan right exactly when its residue leaves
  no comment open;
- `inComment_behind_of_tidy`: lines of which this holds keep it right throughout;
- `final_verdict_shown_outside_iff`: when a final verdict is shown outside the comments.
-/

namespace XmlPreamble.Scan

open Text

section Walk

variable {inComment after : Bool}
variable {line rest residue : List Char}

/-- A jump over the next token turns the flag, whatever comes behind. -/
theorem regions_of_pastToken
    (h : pastToken inComment line = some rest) :
    ∃ before, line = before ++ flippingToken inComment ++ rest ∧
      ∀ behind, (regions inComment (before ++ flippingToken inComment ++ behind)).inComment =
        (regions (!inComment) behind).inComment := by
  obtain ⟨before, hline, hfirst⟩ :=
    exists_before_of_afterFirst? (flippingToken_ne_nil inComment) h
  refine ⟨before, hline, ?_⟩
  intro behind
  cases inComment with
  | false =>
      have hjump := congrArg Regions.inComment (regionsFrom_jump_opening [] behind hfirst)
      exact hjump
  | true =>
      exact congrArg Regions.inComment (regionsFrom_jump_closing [] behind hfirst)

/-- Without a token the flag stays. -/
theorem regions_of_pastToken_none
    (h : pastToken inComment line = none) :
    (regions inComment line).inComment = inComment := by
  have htoken : containsToken (flippingToken inComment) line = false := by
    rw [pastToken] at h
    rw [containsToken, h]
    rfl
  cases inComment with
  | false =>
      exact congrArg Regions.inComment (regionsFrom_of_no_opening htoken)
  | true =>
      exact congrArg Regions.inComment (regionsFrom_of_no_closing htoken)

/-- A walk that leaves something has walked over a part of the line behind which no comment is
open. -/
theorem walkComments_some
    (h : walkComments inComment line = ⟨some residue, after⟩) :
    after = false ∧ ∃ front, line = front ++ residue ∧ front.getLast? = some '>' ∧
      (regions inComment front).inComment = false := by
  fun_induction walkComments inComment line with
  | case1 => cases h
  | case2 inComment line rest hpast hends =>
      -- The walk stops behind a closing token, that is behind a `>`.
      cases h
      obtain ⟨rfl, -⟩ := Bool.and_eq_true_iff.1 hends
      obtain ⟨before, hline, hflag⟩ := regions_of_pastToken hpast
      refine ⟨rfl, before ++ closingToken, hline, ?_, ?_⟩
      · rw [List.getLast?_append]
        rfl
      · rw [← List.append_nil (before ++ closingToken)]
        exact hflag []
  | case3 inComment line rest hpast hends ih =>
      obtain ⟨hafter, front, hrest, hlast, hfront⟩ := ih h
      obtain ⟨before, hline, hflag⟩ := regions_of_pastToken hpast
      refine ⟨hafter, before ++ flippingToken inComment ++ front, ?_, ?_, ?_⟩
      · rw [hline, hrest, List.append_assoc _ front]
      · rw [List.getLast?_append, hlast]
        rfl
      · rw [hflag, hfront]

/-- A walk that leaves nothing ends with the flag that the line has. -/
theorem walkComments_none
    (h : walkComments inComment line = ⟨none, after⟩) :
    (regions inComment line).inComment = after := by
  fun_induction walkComments inComment line with
  | case1 inComment line hpast =>
      cases h
      exact regions_of_pastToken_none hpast
  | case2 => cases h
  | case3 inComment line rest hpast hends ih =>
      obtain ⟨before, hline, hflag⟩ := regions_of_pastToken hpast
      rw [hline, hflag, ih h]

end Walk

section Residue

variable {inComment after : Bool}
variable {line residue : List Char}

/-- In front of the residue the line can be cut, and no comment is open there. -/
theorem stripComments_some_false
    (h : stripComments inComment line = ⟨some residue, false⟩) :
    ∃ front, line = front ++ residue ∧ Cut front ∧ (regions inComment front).inComment = false := by
  rw [stripComments] at h
  split at h
  · cases h
    refine ⟨[], rfl, ?_, rfl⟩
    intro letter hletter
    cases hletter
  · obtain ⟨-, front, hline, hlast, hfront⟩ := walkComments_some h
    refine ⟨front, hline, ?_, hfront⟩
    intro letter hletter
    rw [hlast] at hletter
    exact (Option.some.inj hletter).symm

/-- A line all of which is inside a comment leaves the comment open. -/
theorem stripComments_some_true
    (h : stripComments inComment line = ⟨some residue, true⟩) :
    (regions inComment line).inComment = true := by
  rw [stripComments] at h
  split at h
  · rename_i hplain
    cases h
    rw [regions_of_plain_inside hplain]
  · cases (walkComments_some h).1

theorem stripComments_none
    (h : stripComments inComment line = ⟨none, after⟩) :
    (regions inComment line).inComment = after := by
  rw [stripComments] at h
  split at h
  · cases h
  · exact walkComments_none h

end Residue

section Verdicts

variable {content : List Char}

/-- What opens a tag is the first `<` of a text. -/
theorem exists_of_opensTag
    (h : opensTag content = true) :
    ∃ before letter rest, content = before ++ '<' :: letter :: rest ∧ '<' ∉ before ∧
      isLetter letter = true := by
  rw [opensTag] at h
  split at h
  · rename_i letter rest hfirst
    obtain ⟨before, hcontent, hbefore⟩ := exists_before_of_afterFirst? (by decide) hfirst
    refine ⟨before, letter, rest, by simpa using hcontent, ?_, h⟩
    intro hmem
    rw [Bool.eq_false_iff, Ne, containsToken_iff_infix] at hbefore
    obtain ⟨front, behind, hsplit⟩ := List.append_of_mem hmem
    apply hbefore
    exact ⟨front, behind, by simp [hsplit]⟩
  · cases h

theorem opensTag_of_verdictOf
    (h : verdictOf content = .openingTag) :
    opensTag content = true := by
  rw [verdictOf] at h
  split at h
  · cases h
  · split at h
    · cases h
    · split at h
      · assumption
      · cases h

theorem containsToken_of_verdictOf
    (h : verdictOf content = .doctype) :
    containsToken doctypeToken content = true := by
  rw [verdictOf] at h
  split at h
  · cases h
  · split at h
    · assumption
    · split at h <;> cases h

/-- A final verdict is right about the text on which it is given. -/
theorem shownIn_verdictOf
    (hfinal : (verdictOf content).isFinal = true) :
    (verdictOf content).ShownIn content := by
  cases hverdict : verdictOf content with
  | proceed =>
      rw [hverdict] at hfinal
      cases hfinal
  | doctype =>
      exact containsToken_iff_infix.1 (containsToken_of_verdictOf hverdict)
  | openingTag =>
      obtain ⟨before, letter, rest, rfl, -, hletter⟩ :=
        exists_of_opensTag (opensTag_of_verdictOf hverdict)
      exact ⟨letter, hletter, before, rest, by simp⟩

/-- In front of the first `<` no comment opens. -/
theorem regionsFrom_pass
    {before rest : List Char}
    (stretch : List Char)
    (h : '<' ∉ before) :
    regionsFrom false stretch (before ++ rest) =
      regionsFrom false (before.reverse ++ stretch) rest := by
  induction before generalizing stretch with
  | nil =>
      rfl
  | cons letter before ih =>
      rw [List.mem_cons, not_or] at h
      have hopen : openingToken.isPrefixOf (letter :: (before ++ rest)) = false := by
        simp [openingToken, List.isPrefixOf, h.1]
      rw [List.cons_append, regionsFrom_cons_outside hopen, ih _ h.2]
      simp

/-- A text in which a tag opens shows it outside its comments. -/
theorem show_openingTag
    (h : opensTag content = true) :
    (regions false content).Show .openingTag := by
  obtain ⟨before, letter, rest, rfl, hbefore, hletter⟩ := exists_of_opensTag h
  have hbang : letter ≠ '!' := ne_of_isLetter hletter (by decide +kernel)
  have hsign : letter ≠ '<' := ne_of_isLetter hletter (by decide +kernel)
  have hopen : openingToken.isPrefixOf ('<' :: letter :: rest) = false := by
    simp [openingToken, List.isPrefixOf, hbang.symm]
  have hopen' : openingToken.isPrefixOf (letter :: rest) = false := by
    simp [openingToken, List.isPrefixOf, hsign.symm]
  obtain ⟨first, others, flag, hregions⟩ := exists_regionsFrom_eq rest
  rw [regions, regionsFrom_pass [] hbefore, regionsFrom_cons_outside hopen,
    regionsFrom_cons_outside hopen', hregions]
  refine ⟨_, List.mem_cons_self, letter, hletter, before, first, ?_⟩
  simp

/-- A text without an opening token shows outside its comments all that it shows. -/
theorem show_of_no_opening
    {verdict : Verdict}
    (h : containsToken openingToken content = false) :
    (regions false content).Show verdict ↔ verdict.ShownIn content := by
  rw [regions, regionsFrom_of_no_opening h]
  simp [Regions.Show]

end Verdicts

section Lines

variable {state : State}
variable {line residue : List Char}
variable {lines : List (List Char)}

/-- The state that lines leave behind, whatever the verdicts on them. -/
def State.behind (state : State) : List (List Char) → State
  | [] => state
  | line :: lines => (state.classify line).2.behind lines

/-- The residue of a line leaves no comment open. -/
def TidyLine
    (state : State)
    (line : List Char) : Prop :=
  ∀ residue, stripComments state.inComment line = ⟨some residue, false⟩ →
    (regions false residue).inComment = false

/-- No line leaves a comment open in its residue. -/
def TidyLines (state : State) : List (List Char) → Prop
  | [] => True
  | line :: lines => TidyLine state line ∧ TidyLines (state.classify line).2 lines

/-- A final verdict is one on a residue. -/
theorem stripComments_of_isFinal
    (hfinal : (state.classify line).1.isFinal = true) :
    ∃ residue, stripComments state.inComment line = ⟨some residue, false⟩ ∧
      (state.classify line).1 = verdictOf residue := by
  rw [State.classify] at hfinal ⊢
  split at hfinal
  · cases hfinal
  · cases hfinal
  · rename_i residue hstrip
    exact ⟨residue, hstrip, rfl⟩

/-- The regions of a line whose comments are taken off go on with those of its residue. -/
theorem exists_joins_of_stripComments
    {inComment : Bool}
    (h : stripComments inComment line = ⟨some residue, false⟩) :
    ∃ front, line = front ++ residue ∧ (regions inComment front).inComment = false ∧
      ∀ flag, (regions flag line).Joins (regions flag front)
        (regions (regions flag front).inComment residue) := by
  obtain ⟨front, rfl, hcut, hfront⟩ := stripComments_some_false h
  refine ⟨front, rfl, hfront, ?_⟩
  intro flag
  exact regionsFrom_joins residue hcut

/-- A line keeps the flag of the scan right exactly when its residue leaves no comment open. -/
theorem classify_inComment_iff :
    (state.classify line).2.inComment = (regions state.inComment line).inComment ↔
      TidyLine state line := by
  rw [TidyLine, State.classify]
  split
  · rename_i hstrip
    simp [hstrip, stripComments_none hstrip]
  · rename_i hstrip
    simp [hstrip, stripComments_some_true hstrip]
  · rename_i residue hstrip
    obtain ⟨front, -, hfront, hjoins⟩ := exists_joins_of_stripComments hstrip
    rw [(hjoins state.inComment).inComment, hfront, hstrip]
    constructor
    · intro hclosed other hother
      cases hother
      exact hclosed.symm
    · intro htidy
      exact (htidy residue rfl).symm

/-- Tidy lines keep the flag of the scan right throughout. -/
theorem inComment_behind_of_tidy
    (h : TidyLines state lines) :
    (state.behind lines).inComment = openBehind state.inComment lines := by
  induction lines generalizing state with
  | nil =>
      rfl
  | cons line lines ih =>
      obtain ⟨hline, hlines⟩ := h
      rw [State.behind, ih hlines, classify_inComment_iff.2 hline]
      rfl

end Lines

section FinalVerdict

/-- Whether a line behind earlier ones shows, outside every comment, what a verdict says. -/
def ShownOutside
    (earlier : List (List Char))
    (line : List Char)
    (verdict : Verdict) : Prop :=
  (regions (openBehind false earlier) line).Show verdict

theorem openBehind_concat
    (inComment : Bool)
    (earlier : List (List Char))
    (line : List Char) :
    openBehind inComment (earlier ++ [line]) =
      (regions (openBehind inComment earlier) line).inComment := by
  simp [openBehind]

/-- A final verdict is one on the residue of a line.  The line shows outside its comments what the
verdict says exactly when the residue does, or the text in front of it.  If no earlier line left a
comment open in its residue, then none is open where the residue begins: an opening tag is shown,
and so is a document type declaration if no further comment opens in the residue. -/
theorem final_verdict_shown_outside_iff
    {earlier : List (List Char)}
    {line : List Char}
    {verdict : Verdict}
    (hverdict : ((State.start.behind earlier).classify line).1 = verdict)
    (hfinal : verdict.isFinal = true) :
    ∃ front residue,
      line = front ++ residue ∧
      stripComments (State.start.behind earlier).inComment line = ⟨some residue, false⟩ ∧
      verdict.ShownIn residue ∧
      (ShownOutside earlier line verdict ↔
        ShownOutside earlier front verdict ∨
          ShownOutside (earlier ++ [front]) residue verdict) ∧
      (TidyLines State.start earlier →
        openBehind false (earlier ++ [front]) = false ∧
          (verdict = .openingTag ∨ containsToken openingToken residue = false →
            ShownOutside earlier line verdict)) := by
  subst hverdict
  obtain ⟨residue, hstrip, hresidue⟩ := stripComments_of_isFinal hfinal
  obtain ⟨front, hline, hfront, hjoins⟩ := exists_joins_of_stripComments hstrip
  rw [hresidue] at hfinal ⊢
  have hshown := shownIn_verdictOf hfinal
  have hparts : ShownOutside earlier line (verdictOf residue) ↔
      ShownOutside earlier front (verdictOf residue) ∨
        ShownOutside (earlier ++ [front]) residue (verdictOf residue) := by
    rw [ShownOutside, ShownOutside, ShownOutside, openBehind_concat]
    exact (hjoins (openBehind false earlier)).show_iff (verdictOf residue)
  refine ⟨front, residue, hline, hstrip, hshown, hparts, ?_⟩
  intro htidy
  have hopen : openBehind false (earlier ++ [front]) = false := by
    rw [inComment_behind_of_tidy htidy] at hfront
    rw [openBehind_concat]
    exact hfront
  refine ⟨hopen, ?_⟩
  intro hcase
  apply hparts.2
  right
  rw [ShownOutside, hopen]
  rcases hcase with htag | hplain
  · rw [htag]
    exact show_openingTag (opensTag_of_verdictOf htag)
  · exact (show_of_no_opening hplain).2 hshown

theorem root_behind_comment_shown_outside :
    ((State.start.behind ["<?xml?>".toList]).classify "<!-- a --> <root>".toList).1 =
        .openingTag ∧
      ShownOutside ["<?xml?>".toList] "<!-- a --> <root>".toList .openingTag := by
  have hverdict : ((State.start.behind ["<?xml?>".toList]).classify
      "<!-- a --> <root>".toList).1 = .openingTag := by
    decide +kernel
  have htidy : TidyLines State.start ["<?xml?>".toList] := by
    refine ⟨?_, trivial⟩
    intro residue hstrip
    rw [stripComments_of_no_token State.start.inComment (by decide +kernel)] at hstrip
    cases hstrip
    decide +kernel
  obtain ⟨front, residue, -, -, -, -, hshown⟩ :=
    final_verdict_shown_outside_iff hverdict (by decide)
  exact ⟨hverdict, (hshown htidy).2 (Or.inl rfl)⟩

/-- A comment behind the first one of its line is not taken off, and it is forgotten when it stays
open: a document type declaration and a tag are seen where there is nothing but comment. -/
theorem commented_text_is_seen :
    ((State.start.classify "<!-- a --> x <!-- DOCTYPE -->".toList).1 = .doctype ∧
        ¬ShownOutside [] "<!-- a --> x <!-- DOCTYPE -->".toList .doctype) ∧
      (State.start.classify "<!-- a --> x <!-- b".toList).1 = .proceed ∧
        ((State.start.behind ["<!-- a --> x <!-- b".toList]).classify "<root>".toList).1 =
          .openingTag ∧
        ¬ShownOutside ["<!-- a --> x <!-- b".toList] "<root>".toList .openingTag := by
  have hdoctype : (regions (openBehind false []) "<!-- a --> x <!-- DOCTYPE -->".toList).outside =
      [[], " x ".toList, []] := by
    decide +kernel
  have htag : (regions (openBehind false ["<!-- a --> x <!-- b".toList]) "<root>".toList).outside =
      [] := by
    decide +kernel
  refine ⟨⟨by decide +kernel, ?_⟩, by decide +kernel, by decide +kernel, ?_⟩
  · rw [ShownOutside, Regions.Show, hdoctype]
    simp only [Verdict.ShownIn]
    decide +kernel
  · rw [ShownOutside, Regions.Show, htag]
    rintro ⟨stretch, hstretch, -⟩
    cases hstretch

end FinalVerdict

end XmlPreamble.Scan
