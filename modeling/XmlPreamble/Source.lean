import XmlPreamble.IoError
import XmlPreamble.Text.Search

/-!
# Byte sources

A byte source answers read calls.  It is given by what it will deliver: bytes and failures, in
order.  A call offers room for a number of bytes; bytes that do not fit stay for the next call,
and a call that delivers no bytes means the end of input to whoever reads.  A source keeps the
record of the calls made on it, because how far a reader reads is part of what it does.

Main statements:

- `Source.length_readThrough_le`: no call delivers more than there is room for;
- `Source.weight_read_lt_of_bytes`: a call that delivers bytes leaves less to deliver;
- `Source.weight_readThrough_lt_of_bytes`: so does a call that is repeated while it is interrupted.
-/

namespace XmlPreamble

/-- One thing that a source will deliver. -/
inductive Delivery where
  /-- Bytes, over as many calls as the readers' buffers make necessary. -/
  | bytes (data : Bytes)
  /-- A failure of one call. -/
  | failure (error : IoError)
  deriving DecidableEq, Repr

/-- How a read call ended. -/
inductive CallOutcome where
  /-- The number of bytes delivered. -/
  | delivered (count : Nat)
  /-- The kind of the failure. -/
  | failed (kind : ErrorKind)
  deriving DecidableEq, Repr

/-- The record of one read call. -/
structure ReadCall where
  /-- The number of bytes that the caller had room for. -/
  offered : Nat
  /-- How the call ended. -/
  outcome : CallOutcome
  deriving DecidableEq, Repr

/-- A source of bytes. -/
structure Source where
  /-- What is still to be delivered. -/
  script : List Delivery
  /-- The calls made so far, the latest first. -/
  calls : List ReadCall := []
  deriving DecidableEq, Repr

/-- How much a delivery can still keep a reader busy. -/
def Delivery.weight : Delivery → Nat
  | bytes data => data.length + 1
  | failure _ => 1

namespace Source

/-- The source that delivers the given bytes and nothing else. -/
def ofBytes (data : Bytes) : Source :=
  ⟨[.bytes data], []⟩

/-- How much the steps of a script can still keep a reader busy. -/
def scriptWeight : List Delivery → Nat
  | [] => 0
  | delivery :: script => delivery.weight + scriptWeight script

/-- How much a source can still keep a reader busy. -/
def weight (source : Source) : Nat :=
  scriptWeight source.script

/-- One read call with room for `offered` bytes. -/
def read (source : Source) (offered : Nat) : Except IoError Bytes × Source :=
  match source.script with
  | [] =>
      (.ok [], ⟨[], ⟨offered, .delivered 0⟩ :: source.calls⟩)
  | .failure error :: script =>
      (.error error, ⟨script, ⟨offered, .failed error.kind⟩ :: source.calls⟩)
  | .bytes data :: script =>
      let delivered := data.take offered
      let script :=
        match data.drop offered with
        | [] => script
        | remaining => .bytes remaining :: script
      (.ok delivered, ⟨script, ⟨offered, .delivered delivered.length⟩ :: source.calls⟩)

/-- No call delivers more than there is room for. -/
theorem length_read_le
    {source next : Source}
    {offered : Nat}
    {data : Bytes}
    (h : source.read offered = (.ok data, next)) :
    data.length ≤ offered := by
  rcases source with ⟨_ | ⟨all | _, script⟩, calls⟩ <;> simp only [read] at h
  · cases h
    exact Nat.zero_le _
  · cases h
    exact List.length_take_le _ _
  · cases h

section Weight

/-- A failing call uses up its failure. -/
theorem weight_read_lt_of_error
    {source next : Source}
    {offered : Nat}
    {error : IoError}
    (h : source.read offered = (.error error, next)) :
    next.weight < source.weight := by
  rcases source with ⟨_ | ⟨_ | _, script⟩, calls⟩ <;> simp only [read] at h
  · simp at h
  · simp at h
  · simp only [Prod.mk.injEq] at h
    obtain ⟨-, rfl⟩ := h
    simp [weight, scriptWeight, Delivery.weight]

/-- A call that delivers bytes leaves less to deliver. -/
theorem weight_read_lt_of_bytes
    {source next : Source}
    {offered : Nat}
    {data : Bytes}
    (hne : data ≠ [])
    (h : source.read offered = (.ok data, next)) :
    next.weight + data.length ≤ source.weight := by
  rcases source with ⟨_ | ⟨all | _, script⟩, calls⟩ <;> simp only [read] at h
  · simp only [Prod.mk.injEq, Except.ok.injEq] at h
    exact absurd h.1.symm hne
  · simp only [Prod.mk.injEq, Except.ok.injEq] at h
    obtain ⟨rfl, rfl⟩ := h
    have hlen := congrArg List.length (List.take_append_drop offered all)
    rw [List.length_append] at hlen
    split
    · simp only [weight, Delivery.weight, scriptWeight]
      omega
    · simp only [weight, Delivery.weight, scriptWeight]
      omega
  · simp at h

/-- No call leaves more to deliver. -/
theorem weight_read_le
    (source : Source)
    (offered : Nat) :
    (source.read offered).2.weight ≤ source.weight := by
  rcases source with ⟨_ | ⟨all | _, script⟩, calls⟩ <;> simp only [read]
  · exact Nat.le_refl _
  · have hlen := congrArg List.length (List.take_append_drop offered all)
    rw [List.length_append] at hlen
    split
    · simp only [weight, Delivery.weight, scriptWeight]
      omega
    · simp only [weight, Delivery.weight, scriptWeight]
      omega
  · simp [weight, scriptWeight, Delivery.weight]

end Weight

/-- A read call that is repeated for as long as it is interrupted. -/
def readThrough (source : Source) (offered : Nat) : Except IoError Bytes × Source :=
  match _h : source.read offered with
  | (.error error, next) =>
      if error.kind = .interrupted then next.readThrough offered else (.error error, next)
  | (.ok data, next) => (.ok data, next)
termination_by source.weight
decreasing_by exact weight_read_lt_of_error _h

/-- No repeated call delivers more than there is room for. -/
theorem length_readThrough_le
    {source next : Source}
    {offered : Nat}
    {data : Bytes}
    (h : source.readThrough offered = (.ok data, next)) :
    data.length ≤ offered := by
  fun_induction readThrough source offered with
  | case1 source error after hread hkind ih =>
      exact ih h
  | case2 source error after hread hkind =>
      cases h
  | case3 source found after hread =>
      cases h
      exact length_read_le hread

/-- No repeated call leaves more to deliver. -/
theorem weight_readThrough_le
    (source : Source)
    (offered : Nat) :
    (source.readThrough offered).2.weight ≤ source.weight := by
  fun_induction readThrough source offered with
  | case1 source error after hread hkind ih =>
      have := weight_read_lt_of_error hread
      omega
  | case2 source error after hread hkind =>
      have := weight_read_le source offered
      rw [hread] at this
      exact this
  | case3 source found after hread =>
      have := weight_read_le source offered
      rw [hread] at this
      exact this

/-- A repeated call that delivers bytes leaves less to deliver. -/
theorem weight_readThrough_lt_of_bytes
    {source next : Source}
    {offered : Nat}
    {data : Bytes}
    (hne : data ≠ [])
    (h : source.readThrough offered = (.ok data, next)) :
    next.weight + data.length ≤ source.weight := by
  fun_induction readThrough source offered with
  | case1 source error after hread hkind ih =>
      have := weight_read_lt_of_error hread
      have := ih h
      omega
  | case2 source error after hread hkind =>
      simp at h
  | case3 source found after hread =>
      simp only [Prod.mk.injEq, Except.ok.injEq] at h
      obtain ⟨rfl, rfl⟩ := h
      exact weight_read_lt_of_bytes hne hread

end Source

end XmlPreamble
