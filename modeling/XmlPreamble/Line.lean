import XmlPreamble.Encoding.LineEnd
import XmlPreamble.Encoding.Decode

/-!
# Lines of a document

A document is cut into pieces at every line feed and every carriage return, each by itself.  A
carriage return with a line feed behind it is one end of a line all the same: the empty piece
between the two has the number of the line before it.  `LineCount` carries that numbering from
piece to piece, and `cutPiece?` cuts off the first piece.

Main statement:

- `cutPiece?_length`: the piece and the rest are together as long as what was cut.
-/

namespace XmlPreamble

/-- A stretch of a document up to the next terminator. -/
structure Piece where
  /-- The bytes before the terminator. -/
  body : Bytes
  /-- The terminator, if the document did not end before one came. -/
  terminator : Option Terminator
  deriving DecidableEq, Repr

namespace Piece

/-- The number of bytes that a piece takes up, its terminator included. -/
def size (encoding : Encoding) (piece : Piece) : Nat :=
  piece.body.length + if piece.terminator.isSome then encoding.unitLength else 0

/-- The last piece of a document, which no terminator ends. -/
def unterminated (body : Bytes) : Piece :=
  ⟨body, none⟩

end Piece

/-- Where the numbering of lines stands. -/
structure LineCount where
  /-- The number of the last line, or zero before the first. -/
  number : Nat := 0
  /-- Whether that line was ended by a carriage return. -/
  afterCarriageReturn : Bool := false
  deriving DecidableEq, Repr, Inhabited

namespace LineCount

/-- Whether a piece lies between a carriage return and the line feed that belongs to it. -/
def betweenPair (count : LineCount) (piece : Piece) : Bool :=
  count.afterCarriageReturn && piece.body.isEmpty && piece.terminator == some .lineFeed

/-- The numbering after one more piece. -/
def advance (count : LineCount) (piece : Piece) : LineCount where
  number := if count.betweenPair piece then count.number else count.number + 1
  afterCarriageReturn := piece.terminator == some .carriageReturn

end LineCount

namespace Encoding

/-- Cuts off the first piece that a terminator ends.  The search for the terminator begins at
`searched`, before which there is none. -/
def cutPiece? (encoding : Encoding) (bytes : Bytes) (searched : Nat) : Option (Piece × Bytes) :=
  (encoding.findLineEnd bytes searched).map fun index =>
    (⟨bytes.take index, encoding.terminator? (bytes.drop index)⟩,
      bytes.drop (index + encoding.unitLength))

/-- Reads a piece as the next line. -/
def decodePiece (encoding : Encoding) (count : LineCount) (piece : Piece) :
    Except DecodeError (List Char) :=
  encoding.decodeLine (count.advance piece).number piece.body

/-- What is left behind a piece is shorter than what was cut. -/
theorem cutPiece?_length
    {encoding : Encoding}
    {bytes rest : Bytes}
    {searched : Nat}
    {piece : Piece}
    (h : encoding.cutPiece? bytes searched = some (piece, rest)) :
    piece.body.length + encoding.unitLength + rest.length = bytes.length := by
  simp only [cutPiece?, Option.map_eq_some_iff] at h
  obtain ⟨index, hindex, h⟩ := h
  have hbounds := findLineEnd_bounds hindex
  simp only [Prod.mk.injEq] at h
  obtain ⟨rfl, rfl⟩ := h
  simp only [List.length_take, List.length_drop]
  omega

theorem cutPiece?_rest_length_lt
    {encoding : Encoding}
    {bytes rest : Bytes}
    {searched : Nat}
    {piece : Piece}
    (h : encoding.cutPiece? bytes searched = some (piece, rest)) :
    rest.length < bytes.length := by
  have := cutPiece?_length h
  have := encoding.unitLength_pos
  omega

end Encoding

end XmlPreamble
