import XmlPreamble.Detection.Event
import XmlPreamble.Pieces

/-!
# What a whole document says

The look at a document all of which is at hand: its byte order mark is dropped, its pieces are
decoded and looked at in turn, and the first of them that decides, or is not text, ends the look.
There is no buffer and no source here, so that detections which have both can be measured against
this account.

Main statements:

- `documentPieces_signature_append`: behind the byte order mark of an encoding the pieces are those
  of that encoding;
- `Ending.mode_settled`: with a verdict a document ends as a scan does.
-/

namespace XmlPreamble.Detection

/-- How the look at a document ends. -/
inductive Ending where
  /-- With a verdict, after the given number of lines. -/
  | settled (verdict : Scan.Verdict) (lines : Nat)
  /-- With a line that is not text. -/
  | undecodable (error : DecodeError)
  deriving DecidableEq, Repr

namespace Ending

/-- The mode in which an ending results. -/
def mode : Ending → Mode
  | settled .doctype _ => .dtd
  | settled .openingTag _ => .xsd
  | settled .proceed _ => .xsd
  | undecodable _ => .auto

/-- The event that tells of an ending. -/
def event (extent : Extent) (ending : Ending) : Event :=
  match ending with
  | settled verdict lines => .concluded ending.mode verdict lines extent
  | undecodable error => .undecodable error

/-- With a verdict a document ends as a scan does. -/
theorem mode_settled
    (verdict : Scan.Verdict)
    (lines : Nat) :
    (settled verdict lines).mode = Mode.ofVerdict verdict := by
  cases verdict <;> rfl

end Ending

/-- The look at a document. -/
structure Transcript where
  /-- One event for every line that was looked at, in order. -/
  looked : List Event
  /-- How the look ended. -/
  ending : Ending
  deriving DecidableEq, Repr

namespace Transcript

/-- The look that had one more line before it. -/
def after (transcript : Transcript) (event : Event) : Transcript :=
  { transcript with looked := event :: transcript.looked }

/-- The look at pieces, with the numbering and the state that the pieces before them left. -/
def ofPieces (encoding : Encoding) : LineCount → Scan.State → List Piece → Transcript
  | count, _, [] => ⟨[], .settled .proceed count.number⟩
  | count, state, piece :: rest =>
      match encoding.decodePiece count piece with
      | .error error => ⟨[], .undecodable error⟩
      | .ok line =>
          let (verdict, state) := state.classify line
          let count := count.advance piece
          let event := .classified count.number verdict state.inComment
          if verdict.isFinal then
            ⟨[event], .settled verdict count.number⟩
          else
            (ofPieces encoding count state rest).after event

end Transcript

/-- The pieces of a document behind its byte order mark. -/
def documentPieces (encoding : Encoding) (document : Bytes) : List Piece :=
  encoding.pieces (document.drop (encoding.signatureLength document))

/-- The look at a document. -/
def transcript (document : Bytes) : Transcript :=
  let encoding := Encoding.sniff document
  .ofPieces encoding {} .start (documentPieces encoding document)

section Laws

/-- Behind the byte order mark of an encoding the pieces are those of that encoding. -/
theorem documentPieces_signature_append
    (encoding : Encoding)
    (bytes : Bytes) :
    documentPieces encoding (encoding.signature ++ bytes) = encoding.pieces bytes := by
  have h : encoding.signature.isPrefixOf (encoding.signature ++ bytes) = true :=
    List.isPrefixOf_iff_prefix.2 (List.prefix_append _ _)
  simp [documentPieces, Encoding.signatureLength, h]

end Laws

end XmlPreamble.Detection
