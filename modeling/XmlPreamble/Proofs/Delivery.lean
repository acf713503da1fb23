import XmlPreamble.Source

/-!
# What a source delivers

A script says what a source will deliver call by call.  A reader that repeats interrupted calls
gets to see less of it: the bytes up to the first call that delivers none or fails for good, and
the failure, if it was one.  This module connects the calls with that view.

Main statements:

- `readThrough_error`, `readThrough_nil` and `readThrough_cons`: a repeated call delivers the
  front of the upcoming bytes, and comes to the end of them or to a failure only behind the last.
-/

namespace XmlPreamble
namespace Source

section Upcoming

/-- The bytes that come before the first call that delivers none or fails for good. -/
def upcoming : List Delivery → Bytes
  | [] => []
  | .bytes [] :: _ => []
  | .bytes (byte :: more) :: script => byte :: more ++ upcoming script
  | .failure error :: script => if error.kind = .interrupted then upcoming script else []

/-- The failure that comes behind the upcoming bytes, unless they end the input. -/
def obstacle? : List Delivery → Option IoError
  | [] => none
  | .bytes [] :: _ => none
  | .bytes (_ :: _) :: script => obstacle? script
  | .failure error :: script => if error.kind = .interrupted then obstacle? script else some error

/-- The source hands out a document, over any number of calls, and then ends. -/
def Delivers (source : Source) (document : Bytes) : Prop :=
  upcoming source.script = document ∧ obstacle? source.script = none

instance (source : Source) (document : Bytes) : Decidable (source.Delivers document) :=
  inferInstanceAs (Decidable (_ ∧ _))

theorem delivers_ofBytes (document : Bytes) : (ofBytes document).Delivers document := by
  cases document with
  | nil =>
      exact ⟨rfl, rfl⟩
  | cons byte more =>
      exact ⟨List.append_nil _, rfl⟩

end Upcoming

section Calls

variable {source next : Source}
variable {offered : Nat}

theorem read_error
    {error : IoError}
    (h : source.read offered = (.error error, next)) :
    source.script = .failure error :: next.script := by
  rcases source with ⟨_ | ⟨_ | found, script⟩, calls⟩
  · simp [read] at h
  · simp [read] at h
  · simp only [read, Prod.mk.injEq, Except.error.injEq] at h
    obtain ⟨rfl, rfl⟩ := h
    rfl

/-- A call with room that delivers no bytes means the end of the input. -/
theorem read_nil
    (hroom : 0 < offered)
    (h : source.read offered = (.ok [], next)) :
    upcoming source.script = [] ∧ obstacle? source.script = none := by
  rcases source with ⟨_ | ⟨all | found, script⟩, calls⟩
  · exact ⟨rfl, rfl⟩
  · cases all with
    | nil =>
        exact ⟨rfl, rfl⟩
    | cons byte more =>
        obtain ⟨room, rfl⟩ : ∃ room, offered = room + 1 := ⟨offered - 1, by omega⟩
        simp [read] at h
  · simp [read] at h

/-- A call that delivers bytes takes them off the front of the upcoming ones. -/
theorem read_cons
    {data : Bytes}
    (hne : data ≠ [])
    (h : source.read offered = (.ok data, next)) :
    upcoming source.script = data ++ upcoming next.script ∧
      obstacle? next.script = obstacle? source.script := by
  rcases source with ⟨_ | ⟨all | found, script⟩, calls⟩
  · simp only [read, Prod.mk.injEq, Except.ok.injEq] at h
    exact absurd h.1.symm hne
  · simp only [read, Prod.mk.injEq, Except.ok.injEq] at h
    obtain ⟨rfl, rfl⟩ := h
    cases all with
    | nil =>
        simp at hne
    | cons byte more =>
        cases hrest : (byte :: more).drop offered with
        | nil =>
            have hall : (byte :: more).take offered = byte :: more := by
              have := List.take_append_drop offered (byte :: more)
              rwa [hrest, List.append_nil] at this
            rw [hall]
            exact ⟨rfl, rfl⟩
        | cons first others =>
            refine ⟨?_, rfl⟩
            simp only [upcoming]
            rw [← List.append_assoc, ← hrest, List.take_append_drop]
  · simp [read] at h

/-- A repeated call fails only with the obstacle, and only behind all upcoming bytes. -/
theorem readThrough_error
    {error : IoError}
    (h : source.readThrough offered = (.error error, next)) :
    upcoming source.script = [] ∧ obstacle? source.script = some error := by
  fun_induction readThrough source offered with
  | case1 source found after hread hkind ih =>
      rw [read_error hread, upcoming, obstacle?, if_pos hkind, if_pos hkind]
      exact ih h
  | case2 source found after hread hkind =>
      simp only [Prod.mk.injEq, Except.error.injEq] at h
      obtain ⟨rfl, rfl⟩ := h
      rw [read_error hread, upcoming, obstacle?, if_neg hkind, if_neg hkind]
      exact ⟨rfl, rfl⟩
  | case3 source data after hread =>
      simp at h

/-- A repeated call delivers nothing only at the end of the input. -/
theorem readThrough_nil
    (hroom : 0 < offered)
    (h : source.readThrough offered = (.ok [], next)) :
    upcoming source.script = [] ∧ obstacle? source.script = none := by
  fun_induction readThrough source offered with
  | case1 source found after hread hkind ih =>
      rw [read_error hread, upcoming, obstacle?, if_pos hkind, if_pos hkind]
      exact ih h
  | case2 source found after hread hkind =>
      simp at h
  | case3 source data after hread =>
      simp only [Prod.mk.injEq, Except.ok.injEq] at h
      obtain ⟨rfl, rfl⟩ := h
      exact read_nil hroom hread

/-- A repeated call takes what it delivers off the front of the upcoming bytes. -/
theorem readThrough_cons
    {data : Bytes}
    (hne : data ≠ [])
    (h : source.readThrough offered = (.ok data, next)) :
    upcoming source.script = data ++ upcoming next.script ∧
      obstacle? next.script = obstacle? source.script := by
  fun_induction readThrough source offered with
  | case1 source found after hread hkind ih =>
      rw [read_error hread, upcoming, obstacle?, if_pos hkind, if_pos hkind]
      exact ih h
  | case2 source found after hread hkind =>
      simp at h
  | case3 source found after hread =>
      simp only [Prod.mk.injEq, Except.ok.injEq] at h
      obtain ⟨rfl, rfl⟩ := h
      exact read_cons hne hread

end Calls

end Source
end XmlPreamble
