import XmlPreamble.Detection.Push

/-!
# Shared detectors

A detector that several callers use is kept behind a lock.  A caller that fails while it holds the
lock may have left the detector half changed; from then on the lock is poisoned, and nobody gets at
the detector again.

Main statements:

- `Shared.use_poisoned`: nothing is done with a poisoned detector, and it stays poisoned;
- `Shared.use_sound`: a sound detector is used as if it were alone.
-/

namespace XmlPreamble.Detection

/-- A detector behind a lock. -/
inductive Shared where
  /-- The lock is free, and the detector can be used. -/
  | sound (detector : Detector)
  /-- A caller failed while it held the lock. -/
  | poisoned
  deriving DecidableEq, Repr, Inhabited

/-- The lock of a shared detector is poisoned. -/
structure Poisoned where
  deriving DecidableEq, Repr

/-- The wording of the refusal to use a poisoned detector. -/
def Poisoned.message (_ : Poisoned) : String :=
  "mutex_poisoned"

namespace Shared

/-- A shared detector before the first chunk. -/
def fresh : Shared := .sound .fresh

/-- Uses a detector under its lock. -/
def use {α : Type} (shared : Shared) (action : Detector → α × Detector) :
    Except Poisoned α × Shared :=
  match shared with
  | sound detector =>
      let (result, next) := action detector
      (.ok result, .sound next)
  | poisoned => (.error {}, .poisoned)

/-- Nothing is done with a poisoned detector, and it stays poisoned. -/
theorem use_poisoned
    {α : Type}
    (action : Detector → α × Detector) :
    use .poisoned action = (.error {}, .poisoned) := by
  rfl

/-- A sound detector is used as if it were alone. -/
theorem use_sound
    {α : Type}
    (detector : Detector)
    (action : Detector → α × Detector) :
    use (.sound detector) action = (.ok (action detector).1, .sound (action detector).2) := by
  rfl

/-- The answer of a detector to one more chunk, and what it told its observer. -/
def feed (shared : Shared) (chunk : Bytes) :
    Except Poisoned (Option Mode × List Event) × Shared :=
  shared.use fun detector =>
    let (next, events) := detector.feed chunk
    ((next.decision, events), next)

/-- The answer of a detector to the end of its input, and what it told its observer. -/
def finish (shared : Shared) : Except Poisoned (Mode × List Event) × Shared :=
  shared.use fun detector =>
    let (next, events) := detector.finish
    ((next.answer, events), next)

/-- What can be asked of a detector without changing it. -/
structure Status where
  /-- The answer, once there is one. -/
  decision : Option Mode
  /-- The number of bytes held back. -/
  buffered : Nat
  /-- The number of bytes fed before there was an answer. -/
  bytesSeen : Nat
  deriving DecidableEq, Repr

/-- How a detector stands. -/
def status (shared : Shared) : Except Poisoned Status × Shared :=
  shared.use fun detector =>
    (⟨detector.decision, detector.buffer.length, detector.bytesSeen⟩, detector)

/-- Puts a fresh detector in the place of the one there is. -/
def reset (shared : Shared) : Except Poisoned Unit × Shared :=
  shared.use fun _ => ((), .fresh)

/-- A caller fails while it holds the lock, if it gets the lock at all. -/
def poison (shared : Shared) : Except Poisoned Unit × Shared :=
  match shared with
  | sound _ => (.ok (), .poisoned)
  | poisoned => (.error {}, .poisoned)

end Shared

end XmlPreamble.Detection
