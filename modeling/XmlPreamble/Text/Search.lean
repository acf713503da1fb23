/-!
# Searching for a token

The first occurrence of a token in a text.  Letters may be of any type with decidable equality,
so that one search serves characters and bytes alike.  `firstIndex?` says where the first
occurrence begins, and `afterFirst?` gives what comes behind it.

Main statements:

- `eq_append_of_afterFirst?_eq_some`: what is found is a tail of the text, and the token stands
  directly before it;
- `length_lt_of_afterFirst?_eq_some`: a search for a token that is not empty consumes something.
-/

namespace XmlPreamble

/-- A sequence of bytes. -/
abbrev Bytes := List UInt8

namespace Text

variable {α : Type} [DecidableEq α]

/-- What comes behind the first occurrence of `token`, if there is one. -/
def afterFirst? (token : List α) : List α → Option (List α)
  | [] => if token.isEmpty then some [] else none
  | letter :: rest =>
      if token.isPrefixOf (letter :: rest) then
        some ((letter :: rest).drop token.length)
      else
        afterFirst? token rest

/-- Where the first occurrence of `token` begins, counted from `start`. -/
def firstIndexFrom? (token : List α) (start : Nat) : List α → Option Nat
  | [] => if token.isEmpty then some start else none
  | letter :: rest =>
      if token.isPrefixOf (letter :: rest) then
        some start
      else
        firstIndexFrom? token (start + 1) rest

/-- Where the first occurrence of `token` begins, if there is one. -/
def firstIndex? (token text : List α) : Option Nat :=
  firstIndexFrom? token 0 text

/-- Whether `token` occurs in `text`. -/
def containsToken (token text : List α) : Bool :=
  (afterFirst? token text).isSome

section Laws

/-- What comes behind an occurrence is a tail of the text, and the token stands before it. -/
theorem eq_append_of_afterFirst?_eq_some
    {token text rest : List α}
    (h : afterFirst? token text = some rest) :
    ∃ before, text = before ++ token ++ rest := by
  induction text with
  | nil =>
      cases token with
      | nil =>
          refine ⟨[], ?_⟩
          simpa [afterFirst?] using h
      | cons t ts =>
          simp [afterFirst?] at h
  | cons letter text ih =>
      rw [afterFirst?] at h
      split at h
      · rename_i hp
        obtain ⟨tail, ht⟩ := List.isPrefixOf_iff_prefix.1 hp
        refine ⟨[], ?_⟩
        rw [← ht] at h ⊢
        simp at h
        simp [h]
      · obtain ⟨before, hb⟩ := ih h
        exact ⟨letter :: before, by simp [hb]⟩

/-- A search for a token that is not empty leaves less than it was given. -/
theorem length_lt_of_afterFirst?_eq_some
    {token text rest : List α}
    (hne : token ≠ [])
    (h : afterFirst? token text = some rest) :
    rest.length < text.length := by
  obtain ⟨before, rfl⟩ := eq_append_of_afterFirst?_eq_some h
  have := List.length_pos_iff.2 hne
  simp only [List.length_append]
  omega

/-- A token that does not occur in a text begins it nowhere. -/
theorem containsToken_cons_eq_false
    {token rest : List α}
    {letter : α}
    (h : containsToken token (letter :: rest) = false) :
    token.isPrefixOf (letter :: rest) = false ∧ containsToken token rest = false := by
  rw [containsToken, afterFirst?] at h
  split at h
  · simp at h
  · rename_i hp
    exact ⟨Bool.eq_false_iff.2 hp, h⟩

omit [DecidableEq α] in
/-- Cutting a text at letters brings no new letters in, whatever stood before the text. -/
theorem mem_of_mem_splitOnPPrepend
    {isBorder : α → Bool}
    {text piece before : List α}
    {letter : α}
    (hpiece : piece ∈ text.splitOnPPrepend isBorder before)
    (hletter : letter ∈ piece) :
    letter ∈ before ∨ letter ∈ text := by
  induction text generalizing before with
  | nil =>
      simp only [List.splitOnPPrepend_nil, List.mem_singleton] at hpiece
      subst hpiece
      exact Or.inl (List.mem_reverse.1 hletter)
  | cons first rest ih =>
      rw [List.splitOnPPrepend_cons_eq_if] at hpiece
      split at hpiece
      · rcases List.mem_cons.1 hpiece with rfl | hpiece
        · exact Or.inl (List.mem_reverse.1 hletter)
        · rcases ih hpiece with h | h
          · cases h
          · exact Or.inr (List.mem_cons_of_mem _ h)
      · rcases ih hpiece with h | h
        · rcases List.mem_cons.1 h with rfl | h
          · exact Or.inr List.mem_cons_self
          · exact Or.inl h
        · exact Or.inr (List.mem_cons_of_mem _ h)

omit [DecidableEq α] in
/-- Cutting a text at letters brings no new letters in. -/
theorem mem_of_mem_splitOnP
    {isBorder : α → Bool}
    {text piece : List α}
    {letter : α}
    (hpiece : piece ∈ text.splitOnP isBorder)
    (hletter : letter ∈ piece) :
    letter ∈ text := by
  rcases mem_of_mem_splitOnPPrepend hpiece hletter with h | h
  · cases h
  · exact h

end Laws

end Text

end XmlPreamble
