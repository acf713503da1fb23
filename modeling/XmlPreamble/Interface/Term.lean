import XmlPreamble.Detection.Error
import XmlPreamble.Mode

/-!
# Terms

The values that callers hand to the library and get back from it.  A caller has no types: what a
term is shows only when it is taken apart, and every way of taking one apart can fail.

Main statement:

- `binary?_ofText`: the bytes of a text are taken out of the term that was made of it.
-/

namespace XmlPreamble.Interface

/-- A value of a caller. -/
inductive Term where
  /-- A name that stands for itself. -/
  | atom (name : String)
  /-- A whole number. -/
  | int (value : Int)
  /-- A sequence of bytes. -/
  | binary (data : Bytes)
  /-- A list of terms. -/
  | list (elements : List Term)
  /-- A fixed number of terms. -/
  | tuple (elements : List Term)
  /-- A reference to a detector, by the order in which the detectors were made. -/
  | detector (index : Nat)
  deriving Repr, Inhabited, BEq

namespace Term

section Making

/-- The term of a truth value. -/
def ofBool (value : Bool) : Term :=
  .atom (if value then "true" else "false")

/-- The term of a natural number. -/
def ofNat (n : Nat) : Term :=
  .int n

/-- The term of a text. -/
def ofText (text : List Char) : Term :=
  .binary (Text.Utf8.encode text)

/-- The term of a mode. -/
def ofMode (mode : Mode) : Term :=
  .atom mode.name

/-- The term of an answer that may still be pending. -/
def ofDecision : Option Mode → Term
  | some mode => ofMode mode
  | none => .atom "pending"

/-- The term of an outcome: the mode, or the wording of the failure. -/
def ofOutcome : Except Detection.Failure Mode → Term
  | .ok mode => .tuple [.atom "ok", ofMode mode]
  | .error failure => .tuple [.atom "error", ofText failure.message.toList]

end Making

section Taking

/-- The bytes of a binary. -/
def binary? : Term → Option Bytes
  | binary data => some data
  | _ => none

/-- The text of a binary that is UTF-8. -/
def text? (term : Term) : Option (List Char) :=
  match term.binary? with
  | none => none
  | some data => (Text.Utf8.decode data).toOption

/-- The detector that a reference refers to. -/
def detector? : Term → Option Nat
  | detector index => some index
  | _ => none

/-- What the elements of a list are taken for, if all of them can be. -/
def listOf? {α : Type} (element? : Term → Option α) : Term → Option (List α)
  | list elements => elements.mapM element?
  | _ => none

end Taking

section Laws

/-- The bytes of a text are taken out of the term that was made of it. -/
@[simp] theorem binary?_ofText
    (text : List Char) :
    (ofText text).binary? = some (Text.Utf8.encode text) := by
  rfl

end Laws

end Term

end XmlPreamble.Interface
