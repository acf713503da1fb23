import XmlPreamble.Proofs.SeenOutsideComments

/-!
# A line as a chain of comments

The walk over the front of a line can be told as a grammar: some text, comments with nothing but
blanks between them, and what comes behind the last of them.  No token lies across the end of a text
in which it does not occur, so that a line is such a chain in one way at most.  This module connects
the walk with the chains.

Main statements:

- `Chain.spell_injective`: a chain is told by its spelling;
- `walkComments_of_factors` and `exists_factors_of_walkComments`: a walk leaves something exactly
  when the line is a chain with something behind it;
- `walkComments_of_endsInside` and `endsInside_of_walkComments`: a walk that leaves nothing ends in
  a comment exactly when the line does;
- `says_iff`: what a text outside every comment says;
- `classify_of_chain`: what a line says, told by its chain.
-/

namespace XmlPreamble

namespace Text

section Unbordered

variable {α : Type} [DecidableEq α]
variable {token before other rest behind : List α}

/-- No proper end of a token is a beginning of it, so that no two occurrences overlap. -/
def Unbordered (token : List α) : Prop :=
  ∀ n < token.length, 0 < n → ¬token.drop n <+: token

omit [DecidableEq α] in
/-- Behind a text in which an unbordered token does not occur, the token does not begin early. -/
theorem not_infix_append_dropLast
    (htoken : Unbordered token)
    (hne : token ≠ [])
    (hfree : ¬token <:+: before) :
    ¬token <:+: before ++ token.dropLast := by
  have hlength : token.dropLast.length < token.length := by
    have := List.length_pos_iff.2 hne
    rw [List.length_dropLast]
    omega
  rw [List.infix_append_iff_ne_nil]
  rintro (hbefore | hend | ⟨front, tail, hfront, htail, hsplit, -, hbegin⟩)
  · exact hfree hbefore
  · have := hend.length_le
    omega
  · -- The token would end with something with which it begins as well.
    have hpos := List.length_pos_iff.2 hfront
    have hlen := congrArg List.length hsplit
    have hdrop : token.drop front.length = tail := by
      rw [hsplit, List.drop_left]
    rw [List.length_append] at hlen
    have := List.length_pos_iff.2 htail
    apply htoken front.length (by omega) hpos
    rw [hdrop]
    exact hbegin.trans (List.dropLast_prefix token)

/-- The first occurrence of an unbordered token is the one behind a text in which it does not
occur. -/
theorem afterFirst?_of_not_infix
    (htoken : Unbordered token)
    (hne : token ≠ [])
    (hfree : ¬token <:+: before)
    (rest : List α) :
    afterFirst? token (before ++ token ++ rest) = some rest := by
  induction before with
  | nil =>
      cases token with
      | nil => exact absurd rfl hne
      | cons letter token =>
          have hfront : (letter :: token).isPrefixOf (letter :: (token ++ rest)) = true :=
            List.isPrefixOf_iff_prefix.2 (List.prefix_append _ _)
          simp only [List.nil_append, List.cons_append, afterFirst?]
          rw [if_pos hfront, ← List.cons_append, List.drop_left]
  | cons letter before ih =>
      have hearly := not_infix_append_dropLast htoken hne hfree
      have hfront : token.isPrefixOf (letter :: (before ++ token ++ rest)) = false := by
        rw [Bool.eq_false_iff, Ne, List.isPrefixOf_iff_prefix]
        intro hbegin
        apply hearly
        have hwhole : token <+: letter :: (before ++ token.dropLast) := by
          refine List.prefix_of_prefix_length_le hbegin ?_ ?_
          · refine ⟨[token.getLast hne] ++ rest, ?_⟩
            conv_rhs => rw [← List.dropLast_concat_getLast hne]
            simp
          · rw [List.length_cons, List.length_append, List.length_dropLast]
            omega
        exact hwhole.isInfix
      rw [List.infix_cons_iff, not_or] at hfree
      rw [List.cons_append, List.cons_append, afterFirst?, hfront]
      exact ih hfree.2

theorem afterFirst?_eq_none_iff : afterFirst? token rest = none ↔ ¬token <:+: rest := by
  rw [← containsToken_iff_infix, containsToken, Option.not_isSome_iff_eq_none]

/-- A text is told by what stands before and behind the first occurrence of an unbordered token. -/
theorem eq_of_append_token
    (htoken : Unbordered token)
    (hne : token ≠ [])
    (hbefore : ¬token <:+: before)
    (hother : ¬token <:+: other)
    (h : before ++ token ++ rest = other ++ token ++ behind) :
    before = other ∧ rest = behind := by
  have hrest := afterFirst?_of_not_infix htoken hne hbefore rest
  rw [h, afterFirst?_of_not_infix htoken hne hother behind, Option.some.injEq] at hrest
  subst hrest
  rw [List.append_assoc, List.append_assoc] at h
  exact ⟨List.append_cancel_right h, rfl⟩

end Unbordered

end Text

namespace Scan

open Text

section Chains

/-- A comment behind which, after some blanks, another one follows. -/
structure Link where
  /-- The text of the comment. -/
  body : List Char
  /-- The blanks behind it. -/
  blanks : List Char
  deriving DecidableEq, Repr

/-- A text that ends within a comment, which is the last one of a chain. -/
structure Chain where
  /-- The text before the first comment, unless the chain begins within that comment. -/
  front : Option (List Char)
  /-- The comments that others follow. -/
  links : List Link
  /-- The text of the last comment. -/
  last : List Char
  deriving DecidableEq, Repr

/-- A comment with what leads to the next one. -/
def Link.spell (link : Link) : List Char :=
  link.body ++ closingToken ++ (link.blanks ++ openingToken)

/-- What leads into the first comment of a chain. -/
def spellFront : Option (List Char) → List Char
  | none => []
  | some text => text ++ openingToken

/-- The text of a chain. -/
def Chain.spell (chain : Chain) : List Char :=
  spellFront chain.front ++ (chain.links.flatMap Link.spell ++ chain.last)

/-- The comment closes with the first closing token, and nothing but blanks follows. -/
structure Link.Proper (link : Link) : Prop where
  body_free : ¬closingToken <:+: link.body
  blank : ∀ letter ∈ link.blanks, isBlank letter = true

/-- Every comment of the chain opens with the first opening token and closes with the first closing
token behind it. -/
structure Chain.Proper (inComment : Bool) (chain : Chain) : Prop where
  begins : chain.front.isNone = inComment
  front_free : ∀ text, chain.front = some text → ¬openingToken <:+: text
  links : ∀ link ∈ chain.links, link.Proper
  last_free : ¬closingToken <:+: chain.last

/-- The line is a chain of comments, the last one of which closes with nothing but the residue
behind it.  No further comment follows in the residue without something between. -/
structure Factors (inComment : Bool) (line : List Char) (chain : Chain) (residue : List Char) :
    Prop where
  spelled : line = chain.spell ++ closingToken ++ residue
  proper : chain.Proper inComment
  ends : ¬openingToken <+: residue.dropWhile isBlank

/-- The line is a chain of comments, the last one of which stays open. -/
def EndsInside (inComment : Bool) (line : List Char) : Prop :=
  ∃ chain : Chain, chain.Proper inComment ∧ line = chain.spell

end Chains

section Tokens

theorem unbordered_openingToken : Unbordered openingToken := by
  unfold Unbordered
  decide

theorem unbordered_closingToken : Unbordered closingToken := by
  unfold Unbordered
  decide

/-- An opening token does not occur among blanks. -/
theorem not_infix_of_blank
    {blanks : List Char}
    (h : ∀ letter ∈ blanks, isBlank letter = true) :
    ¬openingToken <:+: blanks := by
  intro hwithin
  have hsign := h '<' (hwithin.subset (by decide))
  revert hsign
  decide

theorem dropWhile_append_of_blank
    {blanks rest : List Char}
    (h : ∀ letter ∈ blanks, isBlank letter = true) :
    (blanks ++ openingToken ++ rest).dropWhile isBlank = openingToken ++ rest := by
  rw [List.append_assoc, List.dropWhile_append_of_pos h]
  rfl

/-- A text in which a comment opens behind nothing but blanks. -/
theorem opensComment_iff
    {text : List Char} :
    opensComment text = true ↔ openingToken <+: text.dropWhile isBlank :=
  List.isPrefixOf_iff_prefix

theorem exists_of_opensComment
    {text : List Char}
    (h : opensComment text = true) :
    ∃ blanks rest, text = blanks ++ openingToken ++ rest ∧
      ∀ letter ∈ blanks, isBlank letter = true := by
  obtain ⟨rest, hrest⟩ := opensComment_iff.1 h
  refine ⟨text.takeWhile isBlank, rest, ?_, List.all_eq_true.1 List.all_takeWhile⟩
  rw [List.append_assoc, hrest, List.takeWhile_append_dropWhile]

end Tokens

section Unique

variable {inComment : Bool}

theorem links_injective
    {links others : List Link}
    {last other : List Char}
    (hlinks : ∀ link ∈ links, link.Proper)
    (hothers : ∀ link ∈ others, link.Proper)
    (hlast : ¬closingToken <:+: last)
    (hother : ¬closingToken <:+: other)
    (h : links.flatMap Link.spell ++ last = others.flatMap Link.spell ++ other) :
    links = others ∧ last = other := by
  induction links generalizing others with
  | nil =>
      cases others with
      | nil => exact ⟨rfl, h⟩
      | cons link others =>
          refine absurd ?_ hlast
          refine
            ⟨link.body, link.blanks ++ openingToken ++ (others.flatMap Link.spell ++ other), ?_⟩
          simpa [Link.spell] using h.symm
  | cons link links ih =>
      cases others with
      | nil =>
          refine absurd ?_ hother
          refine ⟨link.body, link.blanks ++ openingToken ++ (links.flatMap Link.spell ++ last), ?_⟩
          simpa [Link.spell] using h
      | cons second others =>
          rw [List.forall_mem_cons] at hlinks hothers
          simp only [List.flatMap_cons, Link.spell, List.append_assoc] at h
          rw [← List.append_assoc, ← List.append_assoc second.body] at h
          obtain ⟨hbody, h⟩ := eq_of_append_token unbordered_closingToken (by decide)
            hlinks.1.body_free hothers.1.body_free h
          rw [← List.append_assoc, ← List.append_assoc second.blanks] at h
          obtain ⟨hblanks, h⟩ := eq_of_append_token unbordered_openingToken (by decide)
            (not_infix_of_blank hlinks.1.blank) (not_infix_of_blank hothers.1.blank) h
          obtain ⟨hrest, hsame⟩ := ih hlinks.2 hothers.2 h
          refine ⟨?_, hsame⟩
          rw [hrest]
          congr 1
          cases link
          cases second
          exact congrArg₂ Link.mk hbody hblanks

/-- A chain is told by its spelling. -/
theorem Chain.spell_injective
    {chain other : Chain}
    (hchain : chain.Proper inComment)
    (hother : other.Proper inComment)
    (h : chain.spell = other.spell) :
    chain = other := by
  rcases chain with ⟨front, links, last⟩
  rcases other with ⟨front', links', last'⟩
  have hinside : ∀ {text text' : List Char},
      text = links.flatMap Link.spell ++ last → text' = links'.flatMap Link.spell ++ last' →
      text = text' → links = links' ∧ last = last' := by
    rintro text text' rfl rfl hsame
    exact links_injective hchain.links hother.links hchain.last_free hother.last_free hsame
  have hbegins := hchain.begins.trans hother.begins.symm
  cases front with
  | none =>
      cases front' with
      | none =>
          obtain ⟨rfl, rfl⟩ := hinside rfl rfl h
          rfl
      | some text => cases hbegins
  | some text =>
      cases front' with
      | none => cases hbegins
      | some text' =>
          obtain ⟨rfl, hrest⟩ := eq_of_append_token unbordered_openingToken (by decide)
            (hchain.front_free text rfl) (hother.front_free text' rfl) h
          obtain ⟨rfl, rfl⟩ := hinside rfl rfl hrest
          rfl

end Unique

section Walking

variable {inComment : Bool}
variable {line rest residue : List Char}

theorem walkComments_of_pastToken_none
    (h : pastToken inComment line = none) :
    walkComments inComment line = ⟨none, inComment⟩ := by
  rw [walkComments]
  split
  · rfl
  · rename_i hsome
    rw [h] at hsome
    cases hsome

theorem walkComments_of_pastToken_some
    (h : pastToken inComment line = some rest) :
    walkComments inComment line =
      if inComment && !opensComment rest then ⟨some rest, false⟩
      else walkComments (!inComment) rest := by
  rw [walkComments]
  split
  · rename_i hnone
    rw [h] at hnone
    cases hnone
  · rename_i found hsome
    rw [h] at hsome
    cases hsome
    rfl

/-- Outside, a walk goes on behind the first opening. -/
theorem walkComments_opening
    {front : List Char}
    (hfree : ¬openingToken <:+: front)
    (rest : List Char) :
    walkComments false (front ++ openingToken ++ rest) = walkComments true rest := by
  have hpast : pastToken false (front ++ openingToken ++ rest) = some rest :=
    afterFirst?_of_not_infix unbordered_openingToken (by decide) hfree rest
  rw [walkComments_of_pastToken_some hpast]
  rfl

theorem pastToken_closing
    {body : List Char}
    (hfree : ¬closingToken <:+: body)
    (rest : List Char) :
    pastToken true (body ++ closingToken ++ rest) = some rest :=
  afterFirst?_of_not_infix unbordered_closingToken (by decide) hfree rest

/-- A walk goes over a comment that another one follows. -/
theorem walkComments_link
    {link : Link}
    (hlink : link.Proper)
    (rest : List Char) :
    walkComments true (link.spell ++ rest) = walkComments true rest := by
  have hopens : opensComment (link.blanks ++ openingToken ++ rest) = true := by
    rw [opensComment_iff, dropWhile_append_of_blank hlink.blank]
    exact List.prefix_append _ _
  have hsplit : link.spell ++ rest =
      link.body ++ closingToken ++ (link.blanks ++ openingToken ++ rest) := by
    simp only [Link.spell, List.append_assoc]
  rw [hsplit, walkComments_of_pastToken_some (pastToken_closing hlink.body_free _), hopens]
  exact walkComments_opening (not_infix_of_blank hlink.blank) rest

theorem walkComments_links
    {links : List Link}
    (hlinks : ∀ link ∈ links, link.Proper)
    (rest : List Char) :
    walkComments true (links.flatMap Link.spell ++ rest) = walkComments true rest := by
  induction links with
  | nil => rfl
  | cons link links ih =>
      rw [List.forall_mem_cons] at hlinks
      rw [List.flatMap_cons, List.append_assoc, walkComments_link hlinks.1]
      exact ih hlinks.2

/-- A walk goes over a chain into its last comment. -/
theorem walkComments_chain
    {chain : Chain}
    (hchain : chain.Proper inComment)
    (rest : List Char) :
    walkComments inComment (chain.spell ++ rest) = walkComments true (chain.last ++ rest) := by
  have hinside := walkComments_links hchain.links (chain.last ++ rest)
  rw [← List.append_assoc] at hinside
  rcases hfront : chain.front with _ | text
  · have hflag : inComment = true := by
      rw [← hchain.begins, hfront]
      rfl
    rw [hflag, Chain.spell, hfront, spellFront, List.nil_append]
    exact hinside
  · have hflag : inComment = false := by
      rw [← hchain.begins, hfront]
      rfl
    rw [hflag, Chain.spell, hfront, spellFront, List.append_assoc,
      walkComments_opening (hchain.front_free text hfront)]
    exact hinside

/-- A walk over a chain that closes leaves the residue. -/
theorem walkComments_of_factors
    {chain : Chain}
    (h : Factors inComment line chain residue) :
    walkComments inComment line = ⟨some residue, false⟩ := by
  have hends : opensComment residue = false := by
    rw [Bool.eq_false_iff, Ne, opensComment_iff]
    exact h.ends
  rw [h.spelled, List.append_assoc, walkComments_chain h.proper, ← List.append_assoc,
    walkComments_of_pastToken_some (pastToken_closing h.proper.last_free residue), hends]
  rfl

/-- A walk over a chain that stays open leaves nothing. -/
theorem walkComments_of_endsInside
    (h : EndsInside inComment line) :
    walkComments inComment line = ⟨none, true⟩ := by
  obtain ⟨chain, hproper, rfl⟩ := h
  have hwalk := walkComments_chain hproper []
  rw [List.append_nil, List.append_nil] at hwalk
  rw [hwalk]
  exact walkComments_of_pastToken_none (afterFirst?_eq_none_iff.2 hproper.last_free)

end Walking

section Chaining

variable {inComment : Bool}
variable {line rest residue : List Char}

/-- A jump goes over a text in which the token does not occur. -/
theorem exists_before_of_pastToken
    (h : pastToken inComment line = some rest) :
    ∃ before, line = before ++ flippingToken inComment ++ rest ∧
      ¬flippingToken inComment <:+: before := by
  obtain ⟨before, hline, hfirst⟩ := exists_before_of_afterFirst? (flippingToken_ne_nil inComment) h
  refine ⟨before, hline, ?_⟩
  intro hwithin
  rw [Bool.eq_false_iff, Ne, containsToken_iff_infix] at hfirst
  exact hfirst (hwithin.trans (List.infix_append_of_infix_left (List.infix_refl before)))

/-- Behind text without an opening, a chain that begins within a comment begins outside. -/
theorem Chain.Proper.behind_front
    {chain : Chain}
    {front : List Char}
    (hfree : ¬openingToken <:+: front)
    (hchain : chain.Proper true) :
    Chain.Proper false { chain with front := some front } ∧
      Chain.spell { chain with front := some front } = front ++ openingToken ++ chain.spell := by
  have hnone : chain.front = none := Option.isNone_iff_eq_none.1 hchain.begins
  refine ⟨⟨rfl, ?_, hchain.links, hchain.last_free⟩, ?_⟩
  · intro text htext
    cases htext
    exact hfree
  · simp [Chain.spell, spellFront, hnone]

/-- A chain that begins inside a comment has no text in front. -/
theorem Chain.Proper.inside
    {links : List Link}
    {last : List Char}
    (hlinks : ∀ link ∈ links, link.Proper)
    (hlast : ¬closingToken <:+: last) :
    Chain.Proper true ⟨none, links, last⟩ where
  begins := rfl
  front_free := by
    intro text hfront
    cases hfront
  links := hlinks
  last_free := hlast

/-- Behind a comment and blanks, a chain that begins outside begins within the comment. -/
theorem Chain.Proper.behind_link
    {chain : Chain}
    {body behind : List Char}
    (hfree : ¬closingToken <:+: body)
    (hopens : opensComment (chain.spell ++ behind) = true)
    (hchain : chain.Proper false) :
    ∃ other : Chain, other.Proper true ∧
      other.spell = body ++ closingToken ++ chain.spell := by
  rcases chain with ⟨_ | text, links, last⟩
  · cases hchain.begins
  · -- The text before the first comment is what opens the comment, hence it is blank.
    obtain ⟨blanks, rest, hsplit, hblank⟩ := exists_of_opensComment hopens
    have htext : text = blanks := by
      rw [Chain.spell, spellFront, List.append_assoc] at hsplit
      exact (eq_of_append_token unbordered_openingToken (by decide)
        (hchain.front_free text rfl) (not_infix_of_blank hblank) hsplit).1
    refine ⟨⟨none, ⟨body, text⟩ :: links, last⟩, .inside ?_ hchain.last_free, ?_⟩
    · rw [List.forall_mem_cons]
      exact ⟨⟨hfree, htext ▸ hblank⟩, hchain.links⟩
    · simp [Chain.spell, spellFront, Link.spell]

/-- A walk that leaves something has gone over a chain that closes. -/
theorem exists_factors_of_walkComments
    {after : Bool}
    (h : walkComments inComment line = ⟨some residue, after⟩) :
    ∃ chain, Factors inComment line chain residue := by
  fun_induction walkComments inComment line with
  | case1 => cases h
  | case2 inComment line rest hpast hends =>
      cases h
      obtain ⟨rfl, hopens⟩ := Bool.and_eq_true_iff.1 hends
      obtain ⟨body, hline, hfree⟩ := exists_before_of_pastToken hpast
      refine ⟨⟨none, [], body⟩, hline, .inside (List.forall_mem_nil _) hfree, ?_⟩
      rw [← opensComment_iff]
      simpa using hopens
  | case3 inComment line rest hpast hends ih =>
      obtain ⟨chain, hfactors⟩ := ih h
      obtain ⟨before, hline, hfree⟩ := exists_before_of_pastToken hpast
      cases inComment with
      | false =>
          obtain ⟨hproper, hspell⟩ := hfactors.proper.behind_front hfree
          refine ⟨_, ?_, hproper, hfactors.ends⟩
          rw [hspell, hline, hfactors.spelled]
          simp [flippingToken]
      | true =>
          have hopens : opensComment (chain.spell ++ (closingToken ++ residue)) = true := by
            rw [← List.append_assoc, ← hfactors.spelled]
            simpa using hends
          obtain ⟨other, hproper, hspell⟩ := hfactors.proper.behind_link hfree hopens
          refine ⟨other, ?_, hproper, hfactors.ends⟩
          rw [hspell, hline, hfactors.spelled]
          simp [flippingToken]

/-- A walk that leaves nothing and ends inside has gone over a chain that stays open. -/
theorem endsInside_of_walkComments
    (h : walkComments inComment line = ⟨none, true⟩) :
    EndsInside inComment line := by
  fun_induction walkComments inComment line with
  | case1 inComment line hpast =>
      cases h
      have hfree := afterFirst?_eq_none_iff.1 hpast
      exact ⟨⟨none, [], line⟩, .inside (List.forall_mem_nil _) hfree, rfl⟩
  | case2 => cases h
  | case3 inComment line rest hpast hends ih =>
      obtain ⟨chain, hchain, rfl⟩ := ih h
      obtain ⟨before, hline, hfree⟩ := exists_before_of_pastToken hpast
      cases inComment with
      | false =>
          obtain ⟨hproper, hspell⟩ := hchain.behind_front hfree
          exact ⟨_, hproper, hline.trans hspell.symm⟩
      | true =>
          have hopens : opensComment (chain.spell ++ []) = true := by
            simpa using hends
          obtain ⟨other, hproper, hspell⟩ := hchain.behind_link hfree hopens
          exact ⟨other, hproper, hline.trans hspell.symm⟩

end Chaining

section Content

variable {text : List Char}

/-- The first `<` of a text has a letter directly behind it. -/
def OpensTag (text : List Char) : Prop :=
  ∃ before letter rest, text = before ++ '<' :: letter :: rest ∧ '<' ∉ before ∧
    isLetter letter = true

/-- What a text outside every comment says. -/
inductive Says : List Char → Verdict → Prop
  | blank
      {text : List Char}
      (hblank : ∀ letter ∈ text, isBlank letter = true) :
      Says text .proceed
  | doctype
      {text : List Char}
      (hdoctype : doctypeToken <:+: text) :
      Says text .doctype
  | openingTag
      {text : List Char}
      (hdoctype : ¬doctypeToken <:+: text)
      (htag : OpensTag text) :
      Says text .openingTag
  | nothing
      {text : List Char}
      (hdoctype : ¬doctypeToken <:+: text)
      (htag : ¬OpensTag text) :
      Says text .proceed

theorem opensTag_iff : opensTag text = true ↔ OpensTag text := by
  constructor
  · exact exists_of_opensTag
  · rintro ⟨before, letter, rest, rfl, hfree, hletter⟩
    have hsign : ¬['<'] <:+: before := by
      intro hwithin
      exact hfree (hwithin.subset List.mem_cons_self)
    have hafter := afterFirst?_of_not_infix (by unfold Unbordered; decide) (by decide) hsign
      (letter :: rest)
    have hsplit : before ++ '<' :: letter :: rest = before ++ ['<'] ++ letter :: rest := by
      simp
    rw [opensTag, hsplit, hafter]
    exact hletter

/-- The verdict on a text is what the text says. -/
theorem says_iff
    {verdict : Verdict} :
    Says text verdict ↔ verdictOf text = verdict := by
  have hblank : ∀ {letters : List Char}, letters <:+: text → ∀ letter ∈ letters,
      isBlank letter = false → text.all isBlank = false := by
    intro letters hwithin letter hletter hnot
    rw [List.all_eq_false]
    exact ⟨letter, hwithin.subset hletter, by simpa using hnot⟩
  have hword : doctypeToken <:+: text → text.all isBlank = false :=
    fun hwithin => hblank hwithin 'D' (by decide) (by decide)
  have htag : OpensTag text → text.all isBlank = false := by
    rintro ⟨before, letter, rest, rfl, -, -⟩
    exact hblank (List.infix_refl _) '<' (by simp) (by decide)
  constructor
  · intro hmeant
    cases hmeant with
    | blank hall =>
        exact verdictOf_blank (List.all_eq_true.2 hall)
    | doctype hdoctype =>
        rw [verdictOf, hword hdoctype, containsToken_iff_infix.2 hdoctype]
        rfl
    | openingTag hdoctype hopens =>
        rw [← containsToken_iff_infix] at hdoctype
        rw [verdictOf, htag hopens, opensTag_iff.2 hopens, Bool.eq_false_iff.2 hdoctype]
        rfl
    | nothing hdoctype hopens =>
        rw [← containsToken_iff_infix] at hdoctype
        rw [← opensTag_iff] at hopens
        rw [verdictOf, Bool.eq_false_iff.2 hopens, Bool.eq_false_iff.2 hdoctype]
        simp
  · rintro rfl
    rw [verdictOf]
    split
    · rename_i hall
      exact .blank (List.all_eq_true.1 hall)
    · split
      · rename_i hdoctype
        have hwithin := containsToken_iff_infix.1 hdoctype
        exact .doctype hwithin
      · rename_i hdoctype
        have hfree := containsToken_iff_infix.not.1 hdoctype
        split
        · rename_i hopens
          exact .openingTag hfree (opensTag_iff.1 hopens)
        · rename_i hopens
          rw [opensTag_iff] at hopens
          exact .nothing hfree hopens

end Content

section Lines

variable {inComment : Bool}
variable {line : List Char}

theorem plain_iff : plain line = true ↔ ¬openingToken <:+: line ∧ ¬closingToken <:+: line := by
  simp only [plain, Bool.and_eq_true, Bool.not_eq_true', Bool.eq_false_iff, Ne,
    containsToken_iff_infix]

theorem classify_of_walkComments_some
    {residue : List Char}
    (hplain : plain line = false)
    (hwalk : walkComments inComment line = ⟨some residue, false⟩) :
    State.classify ⟨inComment⟩ line = (verdictOf residue, ⟨false⟩) := by
  simp [State.classify, stripComments, hplain, hwalk]

theorem classify_of_walkComments_none
    {after : Bool}
    (hplain : plain line = false)
    (hwalk : walkComments inComment line = ⟨none, after⟩) :
    State.classify ⟨inComment⟩ line = (.proceed, ⟨after⟩) := by
  simp [State.classify, stripComments, hplain, hwalk]

/-- **What a line says.**  A line without comment tokens says, outside a comment, what its text
says, and leaves the comment flag alone.  Any other line is a chain of comments with a residue
behind it in one way at most.  If it is one, it says what the residue says, and no comment is open
behind it.  If it is none, it says nothing, and a comment is open behind it exactly when it ends
inside one. -/
theorem classify_of_chain
    (inComment : Bool)
    (line : List Char) :
    let step := State.classify ⟨inComment⟩ line
    (¬openingToken <:+: line ∧ ¬closingToken <:+: line →
      step.2.inComment = inComment ∧
        if inComment then step.1 = .proceed else Says line step.1) ∧
    (openingToken <:+: line ∨ closingToken <:+: line →
      (∀ chain residue other otherResidue,
        Factors inComment line chain residue → Factors inComment line other otherResidue →
          chain = other ∧ residue = otherResidue) ∧
      (∀ chain residue, Factors inComment line chain residue →
        Says residue step.1 ∧ step.2.inComment = false) ∧
      ((¬∃ chain residue, Factors inComment line chain residue) →
        step.1 = .proceed ∧ (step.2.inComment = true ↔ EndsInside inComment line))) := by
  intro step
  constructor
  · intro hnone
    have hstrip := stripComments_of_no_token inComment (plain_iff.2 hnone)
    cases inComment with
    | false =>
        have hstep : step = (verdictOf line, ⟨false⟩) := by
          simp only [step, State.classify, hstrip]
        rw [hstep]
        exact ⟨rfl, says_iff.2 rfl⟩
    | true =>
        have hstep : step = (.proceed, ⟨true⟩) := by
          simp only [step, State.classify, hstrip]
        rw [hstep]
        exact ⟨rfl, rfl⟩
  · intro hsome
    have hplain : plain line = false := by
      rw [Bool.eq_false_iff, Ne, plain_iff]
      tauto
    refine ⟨?_, ?_, ?_⟩
    · intro chain residue other otherResidue hfactors hother
      have hwalk := walkComments_of_factors hfactors
      rw [walkComments_of_factors hother] at hwalk
      cases hwalk
      have hspell := hfactors.spelled.symm.trans hother.spelled
      rw [List.append_assoc, List.append_assoc] at hspell
      exact ⟨Chain.spell_injective hfactors.proper hother.proper (List.append_cancel_right hspell),
        rfl⟩
    · intro chain residue hfactors
      have hstep : step = (verdictOf residue, ⟨false⟩) :=
        classify_of_walkComments_some hplain (walkComments_of_factors hfactors)
      rw [hstep]
      exact ⟨says_iff.2 rfl, rfl⟩
    · intro hnone
      cases hwalk : walkComments inComment line with
      | mk content after =>
          cases content with
          | some residue =>
              obtain ⟨chain, hfactors⟩ := exists_factors_of_walkComments hwalk
              exact absurd ⟨chain, residue, hfactors⟩ hnone
          | none =>
              have hstep : step = (.proceed, ⟨after⟩) := classify_of_walkComments_none hplain hwalk
              rw [hstep]
              refine ⟨rfl, ?_⟩
              constructor
              · rintro rfl
                exact endsInside_of_walkComments hwalk
              · intro hinside
                rw [walkComments_of_endsInside hinside] at hwalk
                cases hwalk
                rfl

/-- Dashes in front of a closing belong to the comment; two comments with a blank between them are
taken off together, and behind an unclosed one nothing is left. -/
theorem classify_of_chain_of_dashes :
    Says "<r>".toList (State.classify ⟨false⟩ "x<!--->--> <!--b--><r>".toList).1 ∧
      (State.classify ⟨false⟩ "x<!--->--> <!--b--><r>".toList).2.inComment = false ∧
      (State.classify ⟨true⟩ "a--><!-->".toList).1 = .proceed ∧
      (State.classify ⟨true⟩ "a--><!-->".toList).2.inComment = true := by
  have hchain : Factors false "x<!--->--> <!--b--><r>".toList
      ⟨some ['x'], [⟨['-', '>'], [' ']⟩], ['b']⟩ "<r>".toList := by
    refine ⟨by decide +kernel, ⟨rfl, ?_, ?_, by decide⟩, by decide +kernel⟩
    · rintro text ⟨⟩
      decide
    · rw [List.forall_mem_singleton]
      exact ⟨by decide, List.forall_mem_singleton.2 (by decide)⟩
  have hopen : EndsInside true "a--><!-->".toList := by
    refine ⟨⟨none, [⟨['a'], []⟩], ['>']⟩, .inside ?_ (by decide), by decide +kernel⟩
    rw [List.forall_mem_singleton]
    exact ⟨by decide, List.forall_mem_nil _⟩
  have hnone : ¬∃ chain residue, Factors true "a--><!-->".toList chain residue := by
    rintro ⟨chain, residue, hfactors⟩
    have hwalk := walkComments_of_factors hfactors
    rw [walkComments_of_endsInside hopen] at hwalk
    cases hwalk
  obtain ⟨-, hfirst, -⟩ := (classify_of_chain false "x<!--->--> <!--b--><r>".toList).2
    (Or.inl (by decide +kernel))
  obtain ⟨-, -, hsecond⟩ := (classify_of_chain true "a--><!-->".toList).2
    (Or.inl (by decide +kernel))
  obtain ⟨hmeant, hflag⟩ := hfirst _ _ hchain
  obtain ⟨hquiet, hinside⟩ := hsecond hnone
  exact ⟨hmeant, hflag, hquiet, hinside.2 hopen⟩

end Lines

end Scan

end XmlPreamble
