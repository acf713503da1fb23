/-!
# Validation modes

The four answers to the question which grammar a document is to be validated against, with
their numeric codes and their names.  This module connects the three views of a mode: a mode
is recovered from its code by `Mode.ofCode?`, and from its name, in any mixture of capital and
small letters, by `Mode.parse`.

Main statement:

- `Mode.ofCode?_eq_some_iff`: a number is read as a mode exactly when it is the code of that mode.
-/

namespace XmlPreamble

/-- The grammar that a document should be validated against. -/
inductive Mode where
  /-- No validation; detection never answers this. -/
  | none
  /-- The text could not be decoded, so that the choice stays with the caller. -/
  | auto
  /-- A document type declaration comes before the root element. -/
  | dtd
  /-- No document type declaration comes before the root element or the end of the text. -/
  | xsd
  deriving DecidableEq, Repr, Inhabited

namespace Mode

/-- All modes, in the order of their codes. -/
def all : List Mode := [none, auto, dtd, xsd]

section Codes

/-- The stable numeric code of a mode. -/
def code : Mode → Nat
  | none => 0
  | auto => 1
  | dtd => 2
  | xsd => 3

/-- The mode with the given code, if there is one. -/
def ofCode? (code : Nat) : Option Mode :=
  all.find? fun mode => mode.code == code

/-- A number is read as a mode exactly when it is the code of that mode. -/
theorem ofCode?_eq_some_iff
    (n : Nat)
    (mode : Mode) :
    ofCode? n = some mode ↔ mode.code = n := by
  constructor
  · intro h
    simpa using List.find?_some h
  · intro h
    subst h
    cases mode <;> rfl

end Codes

section Names

/-- The lower-case name of a mode. -/
def name : Mode → String
  | none => "none"
  | auto => "auto"
  | dtd => "dtd"
  | xsd => "xsd"

/-- Why a text does not name a mode. -/
inductive ParseError where
  /-- No mode has this name, in whatever case its letters are written. -/
  | unknownName (text : String)
  deriving DecidableEq, Repr

/-- The wording of a parse error. -/
def ParseError.message : ParseError → String
  | unknownName text => "unknown validation mode: " ++ text

/-- Equality of texts up to the case of the letters `A` to `Z`. -/
def sameLetters (left right : String) : Bool :=
  left.toList.map Char.toLower == right.toList.map Char.toLower

/-- The mode that a text names, up to the case of the letters `A` to `Z`. -/
def parse (text : String) : Except ParseError Mode :=
  match all.find? fun mode => sameLetters mode.name text with
  | some mode => .ok mode
  | Option.none => .error (.unknownName text)

end Names

end Mode

end XmlPreamble
