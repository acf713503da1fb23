import XmlPreamble.Detection.Pull
import XmlPreamble.Location

/-!
# Detection in files

The document is found by its location, opened, and looked at.  How paths are opened is given by a
function, so that any way of keeping files will do.

Main statement:

- `detectLocation_of_open_ok`: a document that can be opened is detected like any other source.
-/

namespace XmlPreamble.Detection

/-- How the file at a path is opened. -/
abbrev OpenFile := Bytes → Except IoError Source

/-- Opens the file at a location. -/
def openAt (openFile : OpenFile) (location : Location) : Except Failure Source :=
  match openFile location.path with
  | .ok source => .ok source
  | .error error => .error (.resource location.path error)

/-- Detects the mode of the document at a location. -/
def detectLocation (openFile : OpenFile) (capacity : Nat) (text : List Char) :
    Except Failure Mode :=
  match Location.resolve text with
  | .error failure => .error failure
  | .ok location =>
      match openAt openFile location with
      | .error failure => .error failure
      | .ok source => (detect source capacity).outcome

/-- Detects the mode of the document at every location, in order. -/
def detectLocations (openFile : OpenFile) (capacity : Nat) (texts : List (List Char)) :
    List (Except Failure Mode) :=
  texts.map (detectLocation openFile capacity)

section Laws

variable (openFile : OpenFile)
variable (capacity : Nat)

/-- A file that can be opened is detected like any other source. -/
theorem detectLocation_of_open_ok
    {text : List Char}
    {location : Location}
    {source : Source}
    (hresolve : Location.resolve text = .ok location)
    (hopen : openFile location.path = .ok source) :
    detectLocation openFile capacity text = (detect source capacity).outcome := by
  simp [detectLocation, hresolve, openAt, hopen]

end Laws

end XmlPreamble.Detection
