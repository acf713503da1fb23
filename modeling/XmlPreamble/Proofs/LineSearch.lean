import XmlPreamble.Pieces

/-!
# Resuming the search for the end of a line

Bytes arrive in portions, and a search for a terminator that came to nothing is taken up again
when more of them are there.  This module connects the search over what has arrived so far with
the search over the whole: what was found stays found, and of what was searched in vain only a
code unit that is still incomplete has to be looked at again.

Main statements:

- `findLineEndFrom_append_of_none`: a search that found nothing goes on behind its whole units;
- `SearchedTo.extend`: the place to resume from is kept right when bytes arrive;
- `pieces_append_of_cutPiece?_some` and `pieces_of_searchedTo`: the first piece of what has
  arrived is the first piece of the whole.
-/

namespace XmlPreamble
namespace Encoding

section WholeUnits

@[simp] theorem wholeUnits_utf8 (count : Nat) : utf8.wholeUnits count = count := by
  simp [wholeUnits, unitLength, Nat.mod_one]

theorem wholeUnits_utf16_add_two
    (order : Text.Utf16.ByteOrder)
    (count : Nat) :
    (utf16 order).wholeUnits (count + 2) = (utf16 order).wholeUnits count + 2 := by
  simp only [wholeUnits, unitLength]
  omega

end WholeUnits

section Search

/-- What was found stays found when more bytes arrive. -/
theorem findLineEndFrom_append_of_some
    {encoding : Encoding}
    {index found : Nat}
    {bytes : Bytes}
    (more : Bytes)
    (h : encoding.findLineEndFrom index bytes = some found) :
    encoding.findLineEndFrom index (bytes ++ more) = some found := by
  fun_induction findLineEndFrom encoding index bytes with
  | case1 index byte rest hend =>
      rw [List.cons_append, findLineEndFrom, if_pos hend, h]
  | case2 index byte rest hend ih =>
      rw [List.cons_append, findLineEndFrom, if_neg hend, ih h]
  | case3 order index first second rest hend =>
      rw [List.cons_append, List.cons_append, findLineEndFrom, if_pos hend, h]
  | case4 order index first second rest hend ih =>
      rw [List.cons_append, List.cons_append, findLineEndFrom, if_neg hend, ih h]
  | case5 =>
      cases h

/-- A search that found nothing goes on behind its whole units. -/
theorem findLineEndFrom_append_of_none
    {encoding : Encoding}
    {index : Nat}
    {bytes : Bytes}
    (more : Bytes)
    (h : encoding.findLineEndFrom index bytes = none) :
    encoding.findLineEndFrom index (bytes ++ more) =
      encoding.findLineEndFrom (index + encoding.wholeUnits bytes.length)
        ((bytes ++ more).drop (encoding.wholeUnits bytes.length)) := by
  fun_induction findLineEndFrom encoding index bytes with
  | case1 =>
      cases h
  | case2 index byte rest hend ih =>
      rw [List.cons_append, findLineEndFrom, if_neg hend, ih h]
      simp only [wholeUnits_utf8, List.length_cons, List.drop_succ_cons]
      congr 1
      omega
  | case3 =>
      cases h
  | case4 order index first second rest hend ih =>
      rw [List.cons_append, List.cons_append, findLineEndFrom, if_neg hend, ih h]
      simp only [List.length_cons, wholeUnits_utf16_add_two, List.drop_succ_cons]
      congr 1
      omega
  | case5 bytes encoding index hutf8 hutf16 =>
      -- Not even one unit is there, so that nothing of the bytes may be passed over.
      have hnone : encoding.wholeUnits bytes.length = 0 := by
        cases encoding with
        | utf8 =>
            cases bytes with
            | nil => rfl
            | cons byte rest => exact (hutf8 byte rest rfl rfl).elim
        | utf16 order =>
            rcases bytes with _ | ⟨first, _ | ⟨second, rest⟩⟩
            · rfl
            · rfl
            · exact (hutf16 order first second rest rfl rfl).elim
      rw [hnone, Nat.add_zero, List.drop_zero]

end Search

section SearchedTo

variable {encoding : Encoding}
variable {bytes rest : Bytes}
variable {searched : Nat}
variable {piece : Piece}

/-- However the bytes go on, the search may begin at `searched` as well as in front. -/
def SearchedTo (encoding : Encoding) (bytes : Bytes) (searched : Nat) : Prop :=
  ∀ more, encoding.findLineEnd (bytes ++ more) searched = encoding.findLineEnd (bytes ++ more) 0

theorem searchedTo_zero (encoding : Encoding) (bytes : Bytes) : encoding.SearchedTo bytes 0 :=
  fun _ => rfl

theorem SearchedTo.cutPiece?_eq
    (hsearched : encoding.SearchedTo bytes searched) :
    encoding.cutPiece? bytes searched = encoding.cutPiece? bytes 0 := by
  have h := hsearched []
  rw [List.append_nil] at h
  rw [cutPiece?, cutPiece?, h]

theorem findLineEnd_eq_none_of_cutPiece?
    (h : encoding.cutPiece? bytes 0 = none) :
    encoding.findLineEndFrom 0 bytes = none := by
  simpa [cutPiece?, findLineEnd] using h

/-- Bytes without a terminator are searched up to their last whole unit. -/
theorem searchedTo_wholeUnits
    (h : encoding.cutPiece? bytes 0 = none) :
    encoding.SearchedTo bytes (encoding.wholeUnits bytes.length) := by
  intro more
  have hgo := findLineEndFrom_append_of_none more (findLineEnd_eq_none_of_cutPiece? h)
  rw [Nat.zero_add] at hgo
  simp only [findLineEnd, List.drop_zero]
  exact hgo.symm

/-- What has been searched stays searched when bytes arrive. -/
theorem SearchedTo.append
    (h : encoding.SearchedTo bytes searched)
    (more : Bytes) :
    encoding.SearchedTo (bytes ++ more) searched := by
  intro later
  rw [List.append_assoc]
  exact h (more ++ later)

/-- After a search in vain, the place to resume from lies behind the whole units. -/
theorem SearchedTo.extend
    (hsearched : encoding.SearchedTo bytes searched)
    (hnone : encoding.cutPiece? bytes searched = none)
    (more : Bytes) :
    encoding.SearchedTo (bytes ++ more) (encoding.wholeUnits bytes.length) := by
  rw [hsearched.cutPiece?_eq] at hnone
  exact (searchedTo_wholeUnits hnone).append more

/-- Whether the first unit is a terminator is told by that unit alone. -/
theorem terminator?_append
    (more : Bytes)
    (hlen : encoding.unitLength ≤ bytes.length) :
    encoding.terminator? (bytes ++ more) = encoding.terminator? bytes := by
  cases encoding with
  | utf8 =>
      rcases bytes with _ | ⟨byte, rest⟩
      · simp [unitLength] at hlen
      · rfl
  | utf16 order =>
      rcases bytes with _ | ⟨first, _ | ⟨second, rest⟩⟩
      · simp [unitLength] at hlen
      · simp [unitLength] at hlen
      · rfl

/-- A piece that was cut off is not changed by what arrives behind it. -/
theorem cutPiece?_append
    (more : Bytes)
    (h : encoding.cutPiece? bytes 0 = some (piece, rest)) :
    encoding.cutPiece? (bytes ++ more) 0 = some (piece, rest ++ more) := by
  simp only [cutPiece?, findLineEnd, List.drop_zero, Option.map_eq_some_iff] at h ⊢
  obtain ⟨found, hfound, hcut⟩ := h
  obtain ⟨-, hbound⟩ := findLineEndFrom_bounds hfound
  rw [Nat.zero_add] at hbound
  have hpos := encoding.unitLength_pos
  simp only [Prod.mk.injEq] at hcut
  obtain ⟨rfl, rfl⟩ := hcut
  have hlen : encoding.unitLength ≤ (bytes.drop found).length := by
    rw [List.length_drop]
    omega
  refine ⟨found, findLineEndFrom_append_of_some more hfound, ?_⟩
  rw [List.take_append_of_le_length (by omega), List.drop_append_of_le_length (by omega),
    List.drop_append_of_le_length (by omega), terminator?_append more hlen]

/-- The first piece of what has arrived is the first piece of the whole. -/
theorem pieces_append_of_cutPiece?_some
    (more : Bytes)
    (hsearched : encoding.SearchedTo bytes searched)
    (h : encoding.cutPiece? bytes searched = some (piece, rest)) :
    encoding.pieces (bytes ++ more) = piece :: encoding.pieces (rest ++ more) := by
  rw [hsearched.cutPiece?_eq] at h
  exact pieces_eq_cons (cutPiece?_append more h)

/-- What cannot be cut is the last piece, or nothing is left. -/
theorem pieces_of_searchedTo
    (hsearched : encoding.SearchedTo bytes searched)
    (h : encoding.cutPiece? bytes searched = none) :
    encoding.pieces bytes = lastPiece bytes := by
  rw [hsearched.cutPiece?_eq] at h
  exact pieces_of_cutPiece?_none h

end SearchedTo

end Encoding
end XmlPreamble
