import Mathlib.Data.Nat.Find
import Mathlib.Order.Bounds.Image
import XmlPreamble.Text.Search

/-!
# The first of many places

A search goes from left to right and stops at the first place that will do.  What it comes to is
told by the places alone: it is the least of them, or there is none.  Here this is said once for all
searches, and the search for a token is measured against it.

Main statements:

- `Finds.eq_some_iff` and `Finds.eq_none_iff`: what a search comes to is told by the places;
- `finds_find?_range`: a search through the numbers below a bound;
- `Text.finds_firstIndex?`: the search for a token finds its first place;
- `Text.afterFirst?_eq_some_iff`: what it cuts off lies behind the first occurrence.
-/

namespace XmlPreamble

/-- What a search comes to: the least of the places that will do, or nothing if there is none. -/
inductive Finds (places : Set Nat) : Option Nat → Prop
  | least
      {place : Nat}
      (hleast : IsLeast places place) :
      Finds places (some place)
  | nothing
      (hnone : places = ∅) :
      Finds places none

section Finding

variable {places : Set Nat}
variable {result other : Option Nat}
variable {place : Nat}

theorem Finds.eq_some_iff
    (h : Finds places result) :
    result = some place ↔ IsLeast places place := by
  cases h with
  | least hleast =>
      rw [Option.some.injEq, hleast.isLeast_iff_eq]
  | nothing hnone =>
      constructor
      · intro hsome
        cases hsome
      · intro hleast
        have hmem := hleast.1
        rw [hnone] at hmem
        cases hmem

theorem Finds.eq_none_iff
    (h : Finds places result) :
    result = none ↔ places = ∅ := by
  cases h with
  | least hleast =>
      constructor
      · intro hnone
        cases hnone
      · intro hnone
        have hmem := hleast.1
        rw [hnone] at hmem
        cases hmem
  | nothing hnone =>
      exact iff_of_true rfl hnone

/-- Two searches for the same places come to the same. -/
theorem Finds.unique
    (h : Finds places result)
    (hother : Finds places other) :
    result = other := by
  cases hother with
  | least hleast =>
      exact h.eq_some_iff.2 hleast
  | nothing hnone =>
      exact h.eq_none_iff.2 hnone

/-- A change of places that keeps their order changes what is found along with them. -/
theorem Finds.map
    {f : Nat → Nat}
    (hf : Monotone f)
    (h : Finds places result) :
    Finds (f '' places) (result.map f) := by
  cases h with
  | least hleast =>
      exact .least (hf.map_isLeast hleast)
  | nothing hnone =>
      refine .nothing ?_
      rw [hnone, Set.image_empty]

/-- A search through the numbers below a bound finds the least one that passes the test. -/
theorem finds_find?_range
    (bound : Nat)
    (test : Nat → Bool) :
    Finds {place | place < bound ∧ test place = true} ((List.range bound).find? test) := by
  cases hfind : (List.range bound).find? test with
  | none =>
      rw [List.find?_range_eq_none] at hfind
      refine .nothing (Set.eq_empty_iff_forall_notMem.2 ?_)
      rintro place ⟨hplace, htest⟩
      simpa [htest] using hfind place hplace
  | some place =>
      rw [List.find?_range_eq_some, List.mem_range] at hfind
      obtain ⟨htest, hplace, hearlier⟩ := hfind
      refine .least ⟨⟨hplace, htest⟩, ?_⟩
      rintro other ⟨-, hother⟩
      by_contra hlt
      simpa [hother] using hearlier other (Nat.lt_of_not_le hlt)

end Finding

namespace Text

variable {α : Type}
variable {token text before rest : List α}

section Places

/-- The places at which a token begins in a text. -/
def places (token text : List α) : Set Nat :=
  {place | token <+: text.drop place}

/-- A token begins at a place if its first letter stands there and the others follow. -/
theorem cons_prefix_drop_iff
    {letter : α}
    {place : Nat} :
    letter :: token <+: text.drop place ↔
      text[place]? = some letter ∧ token <+: text.drop (place + 1) := by
  by_cases hplace : place < text.length
  · rw [List.drop_eq_getElem_cons hplace, List.cons_prefix_cons, List.getElem?_eq_getElem hplace,
      Option.some.injEq, eq_comm]
  · have hnil : text.drop place = [] := List.drop_eq_nil_of_le (Nat.le_of_not_lt hplace)
    have hnone : text[place]? = none := List.getElem?_eq_none (Nat.le_of_not_lt hplace)
    simp [hnil, hnone]

/-- A token that does not begin a text begins in it where it begins in the tail. -/
theorem places_cons
    {letter : α}
    (h : ¬token <+: letter :: text) :
    places token (letter :: text) = (1 + ·) '' places token text := by
  ext place
  cases place with
  | zero =>
      constructor
      · intro hbegin
        exact absurd hbegin h
      · rintro ⟨other, -, hother⟩
        dsimp only at hother
        omega
  | succ place =>
      constructor
      · intro hbegin
        exact ⟨place, hbegin, Nat.add_comm 1 place⟩
      · rintro ⟨other, hbegin, hother⟩
        obtain rfl : other = place := by
          dsimp only at hother
          omega
        exact hbegin

/-- The first place of a token that begins the text is the one in front. -/
theorem finds_of_begins
    (start : Nat)
    (h : token <+: text) :
    Finds ((start + ·) '' places token text) (some start) := by
  refine .least ⟨⟨0, h, rfl⟩, ?_⟩
  rintro _ ⟨place, -, rfl⟩
  exact Nat.le_add_right start place

variable [DecidableEq α]

theorem finds_firstIndexFrom?
    (token text : List α)
    (start : Nat) :
    Finds ((start + ·) '' places token text) (firstIndexFrom? token start text) := by
  induction text generalizing start with
  | nil =>
      cases token with
      | nil =>
          exact finds_of_begins start List.prefix_rfl
      | cons letter token =>
          refine .nothing ?_
          rw [Set.image_eq_empty, Set.eq_empty_iff_forall_notMem]
          intro place hbegin
          rw [places, Set.mem_ofPred_eq, List.drop_nil] at hbegin
          cases List.prefix_nil.1 hbegin
  | cons letter text ih =>
      rw [firstIndexFrom?]
      split
      · rename_i hbegin
        exact finds_of_begins start (List.isPrefixOf_iff_prefix.1 hbegin)
      · rename_i hbegin
        rw [List.isPrefixOf_iff_prefix] at hbegin
        rw [places_cons hbegin, Set.image_image]
        simpa only [Nat.add_assoc] using ih (start + 1)

/-- The search for a token finds the first place at which it begins. -/
theorem finds_firstIndex?
    (token text : List α) :
    Finds (places token text) (firstIndex? token text) := by
  have hfinds := finds_firstIndexFrom? token text 0
  simp only [Nat.zero_add, Set.image_id'] at hfinds
  exact hfinds

end Places

section Occurrences

/-- The token stands between two parts of the text, and no occurrence of it has less before it. -/
structure OccursFirst (token text before rest : List α) : Prop where
  split : text = before ++ token ++ rest
  shortest : ∀ other behind, text = other ++ token ++ behind → before.length ≤ other.length

/-- The first occurrence is found again when a letter is taken off in front of it. -/
theorem OccursFirst.of_cons
    {letter : α}
    (h : OccursFirst token (letter :: text) (letter :: before) rest) :
    OccursFirst token text before rest := by
  refine ⟨by simpa using h.split, ?_⟩
  intro other behind hother
  have hle := h.shortest (letter :: other) behind (by simp [hother])
  simpa using hle

/-- A token that occurs has a first occurrence. -/
theorem exists_occursFirst
    (h : text = before ++ token ++ rest) :
    ∃ front behind, OccursFirst token text front behind := by
  classical
  have hlengths : ∃ length front behind,
      text = front ++ token ++ behind ∧ front.length = length :=
    ⟨before.length, before, rest, h, rfl⟩
  obtain ⟨front, behind, hsplit, hlength⟩ := Nat.find_spec hlengths
  refine ⟨front, behind, hsplit, ?_⟩
  intro other further hother
  rw [hlength]
  exact Nat.find_min' hlengths ⟨other, further, hother, rfl⟩

variable [DecidableEq α]

theorem afterFirst?_of_occursFirst
    (h : OccursFirst token text before rest) :
    afterFirst? token text = some rest := by
  induction text generalizing before with
  | nil =>
      obtain ⟨hfront, rfl⟩ := List.append_eq_nil_iff.1 h.split.symm
      obtain ⟨-, rfl⟩ := List.append_eq_nil_iff.1 hfront
      rfl
  | cons letter text ih =>
      rw [afterFirst?]
      split
      · rename_i hbegin
        obtain ⟨tail, htail⟩ := List.isPrefixOf_iff_prefix.1 hbegin
        have hle := h.shortest [] tail htail.symm
        obtain rfl : before = [] := List.length_eq_zero_iff.1 (Nat.le_zero.1 hle)
        rw [h.split, List.nil_append, List.drop_left]
      · rename_i hbegin
        cases before with
        | nil =>
            rw [h.split, List.nil_append, List.isPrefixOf_iff_prefix] at hbegin
            exact absurd (List.prefix_append token rest) hbegin
        | cons first before =>
            obtain ⟨rfl, -⟩ := List.cons.inj h.split
            exact ih h.of_cons

/-- What a search cuts off lies behind the first occurrence of the token. -/
theorem afterFirst?_eq_some_iff :
    afterFirst? token text = some rest ↔ ∃ before, OccursFirst token text before rest := by
  constructor
  · intro h
    obtain ⟨before, hbefore⟩ := eq_append_of_afterFirst?_eq_some h
    obtain ⟨front, behind, hfirst⟩ := exists_occursFirst hbefore
    rw [afterFirst?_of_occursFirst hfirst, Option.some.injEq] at h
    exact ⟨front, h ▸ hfirst⟩
  · rintro ⟨before, hfirst⟩
    exact afterFirst?_of_occursFirst hfirst

end Occurrences

end Text

end XmlPreamble
