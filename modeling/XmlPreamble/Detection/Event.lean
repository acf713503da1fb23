import XmlPreamble.Line
import XmlPreamble.Mode
import XmlPreamble.Scan.Line

/-!
# Events of a detection

What a detection tells an observer while it runs: one event per line that was looked at, and one
event for its end.  Events are values that a detection returns beside its answer.

Main statement:

- `Mode.ofVerdict_ne_none`: a scan that ends with a verdict never answers that validation is off.
-/

namespace XmlPreamble

/-- The mode in which a scan results that ended with the given verdict. -/
def Mode.ofVerdict : Scan.Verdict → Mode
  | .doctype => .dtd
  | .openingTag => .xsd
  | .proceed => .xsd

/-- A scan that ends with a verdict never answers that validation is off. -/
theorem Mode.ofVerdict_ne_none (verdict : Scan.Verdict) : Mode.ofVerdict verdict ≠ .none := by
  cases verdict <;> decide

namespace Detection

/-- How much an observer wants to hear. -/
inductive Level where
  /-- Every step. -/
  | trace
  /-- The end only. -/
  | debug
  deriving DecidableEq, Repr

/-- The name of a level in records. -/
def Level.label : Level → String
  | trace => "TRACE"
  | debug => "DEBUG"

/-- What is told about the input beside the verdict on it. -/
inductive Extent where
  /-- The encoding in which the lines were read. -/
  | encoding (encoding : Option Encoding)
  /-- The number of bytes that were fed. -/
  | bytes (count : Nat)
  deriving DecidableEq, Repr

/-- What a detection tells an observer. -/
inductive Event where
  /-- A line was looked at, and a comment is open behind it or is not. -/
  | classified (line : Nat) (verdict : Scan.Verdict) (inComment : Bool)
  /-- A line was not text. -/
  | undecodable (error : DecodeError)
  /-- The scan ended with a verdict after the given number of lines. -/
  | concluded (mode : Mode) (verdict : Scan.Verdict) (lines : Nat) (extent : Extent)
  deriving DecidableEq, Repr

namespace Event

/-- How important an event is. -/
def level : Event → Level
  | classified .. => .trace
  | undecodable .. => .debug
  | concluded .. => .debug

/-- The wording of an event. -/
def message : Event → String
  | classified .. => "classified line"
  | undecodable .. => "undecodable input, leaving validation mode to caller"
  | concluded .. => "validation mode detected"

end Event

end Detection

end XmlPreamble
