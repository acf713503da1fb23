import XmlPreamble.IoError
import XmlPreamble.Text.Utf8

/-!
# Failures of a detection

A detection fails if its document cannot be found, opened or read.  Text that does not decode is
no failure: it has a mode of its own.  Each failure is a cause, and one function words them all.
-/

namespace XmlPreamble.Detection

/-- Why there is no answer. -/
inductive Failure where
  /-- Reading the document failed. -/
  | io (error : IoError)
  /-- The location does not name a local file. -/
  | unsupportedLocation (location : List Char)
  /-- The file at a path could not be opened. -/
  | resource (path : Bytes) (error : IoError)
  deriving DecidableEq, Repr

namespace Failure

/-- The text of a path, with U+FFFD for what is not UTF-8. -/
def pathText (path : Bytes) : String :=
  String.ofList (Text.Utf8.decodeLossy path)

/-- The wording of a failure. -/
def message : Failure → String
  | io error => "failed to read document: " ++ error.text
  | unsupportedLocation location => "unsupported location: " ++ String.ofList location
  | resource path error => "cannot open " ++ pathText path ++ ": " ++ error.text

/-- The failure of input that lies behind a failure. -/
def source : Failure → Option IoError
  | io error => some error
  | unsupportedLocation _ => none
  | resource _ error => some error

end Failure

end XmlPreamble.Detection
