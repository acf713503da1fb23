import XmlPreamble.Scan.Line
import XmlPreamble.Text.Utf8

/-!
# Looking at the bytes of a line

A decoded line is at hand as its bytes in UTF-8.  A scan can search these for the bytes of a token
and go on behind them, and it has to read characters only where it asks what they are.  A cut within
a character would leave bytes that are no text; it is refused, as is a cut behind the end, and bytes
that cannot be read are refused as well.  This is the look at a line step by step on bytes, for any
way to search them.

Main statements:

- `Text.Utf8.cutAt_of_isBoundary`: a cut between two characters gives what lies behind it;
- `ByteSearch.length_lt_of_pastToken`: every step of the walk over comments consumes something,
  hence the walk ends.
-/

namespace XmlPreamble

namespace Text.Utf8

/-- What can go wrong when text is handled as bytes. -/
inductive Mishap where
  /-- Bytes are to be cut within a character or behind their end. -/
  | misplacedCut (offset : Nat)
  /-- Bytes are to be read that are no text. -/
  | unreadable (fault : Fault)
  deriving DecidableEq, Repr

/-- Whether a character can begin with a byte. -/
def startsCharacter (byte : UInt8) : Bool :=
  byte < 0x80 || 0xC0 ≤ byte

/-- Whether bytes can be cut at an offset: in front, at the end, or where a character begins. -/
def isBoundary (bytes : Bytes) (offset : Nat) : Bool :=
  offset == 0 || offset == bytes.length || bytes[offset]?.any startsCharacter

/-- What lies behind a cut. -/
def cutAt (bytes : Bytes) (offset : Nat) : Except Mishap Bytes :=
  if isBoundary bytes offset then .ok (bytes.drop offset) else .error (.misplacedCut offset)

/-- The characters of bytes. -/
def characters (bytes : Bytes) : Except Mishap (List Char) :=
  (decode bytes).mapError .unreadable

/-- Between two characters a cut is granted. -/
theorem cutAt_of_isBoundary
    {bytes : Bytes}
    {offset : Nat}
    (h : isBoundary bytes offset = true) :
    cutAt bytes offset = .ok (bytes.drop offset) :=
  if_pos h

theorem le_length_of_isBoundary
    {bytes : Bytes}
    {offset : Nat}
    (h : isBoundary bytes offset = true) :
    offset ≤ bytes.length := by
  simp only [isBoundary, Bool.or_eq_true, beq_iff_eq] at h
  rcases h with (rfl | rfl) | h
  · exact Nat.zero_le _
  · exact Nat.le_refl _
  · obtain ⟨byte, hbyte, -⟩ := (Option.any_eq_true _ _).1 h
    exact Nat.le_of_lt (List.getElem?_eq_some_iff.1 hbyte).1

/-- What is granted is a part of the bytes. -/
theorem length_of_cutAt
    {bytes rest : Bytes}
    {offset : Nat}
    (h : cutAt bytes offset = .ok rest) :
    offset + rest.length = bytes.length := by
  rw [cutAt] at h
  split at h
  · rename_i hboundary
    have hle := le_length_of_isBoundary hboundary
    cases h
    rw [List.length_drop]
    omega
  · cases h

end Text.Utf8

namespace Scan

open Text
open Text.Utf8 (Mishap encode cutAt characters)

/-- A way to search bytes: where a sequence of bytes begins in others, and where a single byte
stands. -/
structure ByteSearch where
  token? : Bytes → Bytes → Option Nat
  byte? : UInt8 → Bytes → Option Nat

namespace ByteSearch

variable (search : ByteSearch)

section Comments

/-- Whether the bytes of a token occur in a line. -/
def containsToken (token : List Char) (line : Bytes) : Bool :=
  (search.token? (encode token) line).isSome

/-- What comes behind the next token that changes whether a comment is open. -/
def pastToken (inComment : Bool) (line : Bytes) : Except Mishap (Option Bytes) :=
  let token := encode (flippingToken inComment)
  match search.token? token line with
  | none => .ok none
  | some index => (cutAt line (index + token.length)).map some

/-- A step of the walk consumes something. -/
theorem length_lt_of_pastToken
    {search : ByteSearch}
    {inComment : Bool}
    {line rest : Bytes}
    (h : search.pastToken inComment line = .ok (some rest)) :
    rest.length < line.length := by
  have htoken : 0 < (encode (flippingToken inComment)).length := by
    cases inComment <;> decide
  simp only [pastToken] at h
  split at h
  · cases h
  · rename_i index hindex
    cases hcut : cutAt line (index + (encode (flippingToken inComment)).length) with
    | error mishap =>
        rw [hcut] at h
        cases h
    | ok behind =>
        rw [hcut] at h
        cases h
        have hlength := Utf8.length_of_cutAt hcut
        omega

/-- Walks over the comments of a line, up to a closing token that no further comment follows.  It
gives the content behind the comments, if there is any, and whether a comment is open. -/
def walkComments (inComment : Bool) (line : Bytes) : Except Mishap (Option Bytes × Bool) :=
  match _h : search.pastToken inComment line with
  | .error mishap => .error mishap
  | .ok none => .ok (none, inComment)
  | .ok (some rest) =>
      if inComment then
        match characters rest with
        | .error mishap => .error mishap
        | .ok text =>
            if opensComment text then walkComments false rest else .ok (some rest, false)
      else
        walkComments true rest
termination_by line.length
decreasing_by all_goals exact length_lt_of_pastToken _h

/-- Takes the comments off the front of a line. -/
def stripComments (inComment : Bool) (line : Bytes) : Except Mishap (Option Bytes × Bool) :=
  if search.containsToken openingToken line || search.containsToken closingToken line then
    search.walkComments inComment line
  else
    .ok (some line, inComment)

end Comments

section Content

/-- Whether a letter stands directly behind the first `<`. -/
def opensTag (content : Bytes) : Except Mishap Bool :=
  match search.byte? 0x3C content with
  | none => .ok false
  | some index => do
      let text ← characters (← cutAt content (index + 1))
      return text.head?.any isLetter

/-- The verdict on text outside every comment. -/
def verdictOf (content : Bytes) : Except Mishap Verdict := do
  let text ← characters content
  if text.all isBlank then
    return .proceed
  else if search.containsToken doctypeToken content then
    return .doctype
  else if ← search.opensTag content then
    return .openingTag
  else
    return .proceed

/-- Looks at one line, given without its terminator. -/
def classify (state : State) (line : Bytes) : Except Mishap (Verdict × State) := do
  match ← search.stripComments state.inComment line with
  | (none, inComment) => return (.proceed, ⟨inComment⟩)
  | (some _, true) => return (.proceed, ⟨true⟩)
  | (some content, false) => return (← search.verdictOf content, ⟨false⟩)

/-- Looks at lines in turn, also behind a final verdict. -/
def classifyAll (state : State) : List Bytes → Except Mishap (List (Verdict × State))
  | [] => return []
  | line :: lines => do
      let step ← search.classify state line
      return step :: (← classifyAll step.2 lines)

end Content

end ByteSearch

end Scan

end XmlPreamble
