import XmlPreamble.Text.Blank
import XmlPreamble.Text.Search

/-!
# Comments at the front of a line

A line may begin inside a comment, and comments may follow each other on it with nothing but
blanks between them.  This module walks over that chain of comments and hands on what comes
behind it.  Text in front of the first comment of a line is passed over together with the
comment, and a line that closes a comment which was never opened has nothing behind it.

Main statements:

- `stripComments_of_no_token`: a line without comment tokens is handed on as it stands;
- `pastToken_length_lt`: every step of the walk consumes something, hence the walk ends.
-/

namespace XmlPreamble.Scan

open Text

/-- The token that opens a comment. -/
def openingToken : List Char := ['<', '!', '-', '-']

/-- The token that closes a comment. -/
def closingToken : List Char := ['-', '-', '>']

/-- The token that changes whether a comment is open. -/
def flippingToken (inComment : Bool) : List Char :=
  if inComment then closingToken else openingToken

theorem flippingToken_ne_nil (inComment : Bool) : flippingToken inComment ≠ [] := by
  cases inComment <;> decide

/-- What comes behind the next token that changes whether a comment is open. -/
def pastToken (inComment : Bool) (line : List Char) : Option (List Char) :=
  afterFirst? (flippingToken inComment) line

/-- A step of the walk consumes something. -/
theorem pastToken_length_lt
    {inComment : Bool}
    {line rest : List Char}
    (h : pastToken inComment line = some rest) :
    rest.length < line.length :=
  length_lt_of_afterFirst?_eq_some (flippingToken_ne_nil inComment) h

/-- Whether nothing but blanks stands before the opening of a comment. -/
def opensComment (line : List Char) : Bool :=
  openingToken.isPrefixOf (line.dropWhile isBlank)

/-- What is left of a line once the comments at its front are gone. -/
structure Stripped where
  /-- The content behind the comments, if the line has any. -/
  content : Option (List Char)
  /-- Whether a comment is open at the end of what was walked over. -/
  inComment : Bool
  deriving DecidableEq, Repr

/-- Walks over the comments of a line, up to a closing token that no further comment follows. -/
def walkComments (inComment : Bool) (line : List Char) : Stripped :=
  match _h : pastToken inComment line with
  | none => ⟨none, inComment⟩
  | some rest =>
      if inComment && !opensComment rest then
        ⟨some rest, false⟩
      else
        walkComments (!inComment) rest
termination_by line.length
decreasing_by exact pastToken_length_lt _h

/-- Whether a line has no comment token at all. -/
def plain (line : List Char) : Bool :=
  !containsToken openingToken line && !containsToken closingToken line

/-- Takes the comments off the front of a line. -/
def stripComments (inComment : Bool) (line : List Char) : Stripped :=
  if plain line then ⟨some line, inComment⟩ else walkComments inComment line

/-- A line without comment tokens is handed on as it stands. -/
theorem stripComments_of_no_token
    {line : List Char}
    (inComment : Bool)
    (h : plain line = true) :
    stripComments inComment line = ⟨some line, inComment⟩ := by
  simp [stripComments, h]

end XmlPreamble.Scan
