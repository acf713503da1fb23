import XmlPreamble.Scan.Comment
import XmlPreamble.Text.Letter

/-!
# Looking at one line

The verdict on one decoded line of a preamble, and the one thing that is carried from a line to
the next: whether a comment is open.  A document type declaration wins over a tag on the same
line, and only the first `<` of a line can open a tag.

Main statements:

- `State.classify_eq_proceed_of_inComment`: a line without comment tokens inside a comment says
  nothing and leaves the comment open;
- `verdictOf_blank`: a line of blanks says nothing.
-/

namespace XmlPreamble.Scan

open Text

/-- What a single line says about its document. -/
inductive Verdict where
  /-- Nothing; the next line has to be looked at. -/
  | proceed
  /-- A document type declaration stands outside every comment. -/
  | doctype
  /-- The first tag opens here, and the preamble is over. -/
  | openingTag
  deriving DecidableEq, Repr, Inhabited

namespace Verdict

/-- The name of a verdict in records. -/
def label : Verdict → String
  | proceed => "Continue"
  | doctype => "Doctype"
  | openingTag => "OpeningTag"

/-- Whether a verdict settles the matter. -/
def isFinal (verdict : Verdict) : Bool :=
  verdict != proceed

end Verdict

/-- The word that shows a document type declaration. -/
def doctypeToken : List Char := ['D', 'O', 'C', 'T', 'Y', 'P', 'E']

section Content

/-- Whether a letter stands directly behind the first `<`. -/
def opensTag (content : List Char) : Bool :=
  match afterFirst? ['<'] content with
  | some (c :: _) => isLetter c
  | _ => false

/-- The verdict on text outside every comment. -/
def verdictOf (content : List Char) : Verdict :=
  if content.all isBlank then .proceed
  else if containsToken doctypeToken content then .doctype
  else if opensTag content then .openingTag
  else .proceed

/-- A line of blanks says nothing. -/
theorem verdictOf_blank
    {content : List Char}
    (h : content.all isBlank = true) :
    verdictOf content = .proceed := by
  simp [verdictOf, h]

end Content

/-- What is carried from one line to the next. -/
structure State where
  /-- Whether a comment is open. -/
  inComment : Bool := false
  deriving DecidableEq, Repr, Inhabited

namespace State

/-- The state before the first line. -/
def start : State := ⟨false⟩

/-- Looks at one line, given without its terminator. -/
def classify (state : State) (line : List Char) : Verdict × State :=
  match stripComments state.inComment line with
  | ⟨none, inComment⟩ => (.proceed, ⟨inComment⟩)
  | ⟨some _, true⟩ => (.proceed, ⟨true⟩)
  | ⟨some content, false⟩ => (verdictOf content, ⟨false⟩)

/-- Inside a comment, a line without comment tokens says nothing and leaves the comment open. -/
theorem classify_eq_proceed_of_inComment
    {line : List Char}
    (h : plain line = true) :
    classify ⟨true⟩ line = (.proceed, ⟨true⟩) := by
  simp [classify, stripComments_of_no_token true h]

/-- Looks at lines in turn, also behind a final verdict. -/
def classifyAll (state : State) : List (List Char) → List (Verdict × State)
  | [] => []
  | line :: lines =>
      let step := state.classify line
      step :: step.2.classifyAll lines

end State

end XmlPreamble.Scan
