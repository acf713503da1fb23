import XmlPreamble.Line

/-!
# The pieces of a whole document

All pieces of a document at once, read off its code units from left to right.  This is the view
against which a reader that cuts piece after piece out of a buffer is measured.

Main statements:

- `flatMap_spelling_pieces`: the pieces and their terminators in a row are the bytes again;
- `pieces_eq_cons` and `pieces_of_cutPiece?_none`: cutting off the first piece gives the first one
  of the pieces, and the rest has the others.
-/

namespace XmlPreamble.Encoding

open Text

/-- The last piece, unless there is nothing left for it. -/
def lastPiece (body : Bytes) : List Piece :=
  if body.isEmpty then [] else [.unterminated body]

/-- The pieces of bytes, before which the bytes of `body`, in reverse order, belong to the first
piece. -/
def piecesFrom : Encoding → Bytes → Bytes → List Piece
  | utf8, body, byte :: rest =>
      match Terminator.ofCode? byte.toNat with
      | some terminator => ⟨body.reverse, some terminator⟩ :: piecesFrom utf8 [] rest
      | none => piecesFrom utf8 (byte :: body) rest
  | utf16 order, body, first :: second :: rest =>
      match Terminator.ofCode? (order.unit first second).toNat with
      | some terminator => ⟨body.reverse, some terminator⟩ :: piecesFrom (utf16 order) [] rest
      | none => piecesFrom (utf16 order) (second :: first :: body) rest
  | _, body, rest => lastPiece (body.reverse ++ rest)

/-- The pieces of bytes. -/
def pieces (encoding : Encoding) (bytes : Bytes) : List Piece :=
  encoding.piecesFrom [] bytes

@[simp] theorem pieces_nil (encoding : Encoding) : encoding.pieces [] = [] := by
  cases encoding <;> rfl

section Cutting

/-- A search that finds a terminator splits the pieces there. -/
theorem piecesFrom_of_findLineEndFrom_some
    {encoding : Encoding}
    {body bytes : Bytes}
    {index found : Nat}
    (h : encoding.findLineEndFrom index bytes = some found) :
    encoding.piecesFrom body bytes =
      ⟨body.reverse ++ bytes.take (found - index),
          encoding.terminator? (bytes.drop (found - index))⟩ ::
        encoding.pieces (bytes.drop (found - index + encoding.unitLength)) := by
  fun_induction findLineEndFrom encoding index bytes generalizing body with
  | case1 index byte rest hend =>
      cases h
      obtain ⟨terminator, ht⟩ := Option.isSome_iff_exists.1 hend
      simp [piecesFrom, pieces, terminator?, unitLength, ht]
  | case2 index byte rest hend ih =>
      have hb := (findLineEndFrom_bounds h).1
      have ht : Terminator.ofCode? byte.toNat = none := by simpa using hend
      obtain ⟨n, hn⟩ : ∃ n, found - index = n + 1 := ⟨found - index - 1, by omega⟩
      have hn' : found - (index + 1) = n := by omega
      rw [piecesFrom, ht]
      simp only [ih h, hn, hn', Nat.add_right_comm n 1, List.drop_succ_cons]
      simp
  | case3 order index first second rest hend =>
      cases h
      obtain ⟨terminator, ht⟩ := Option.isSome_iff_exists.1 hend
      simp [piecesFrom, pieces, terminator?, unitLength, ht]
  | case4 order index first second rest hend ih =>
      have hb := (findLineEndFrom_bounds h).1
      have ht : Terminator.ofCode? (order.unit first second).toNat = none := by simpa using hend
      obtain ⟨n, hn⟩ : ∃ n, found - index = n + 2 := ⟨found - index - 2, by omega⟩
      have hn' : found - (index + 2) = n := by omega
      rw [piecesFrom, ht]
      simp only [ih h, hn, hn', Nat.add_right_comm n 2, List.drop_succ_cons]
      simp
  | case5 => cases h

/-- A search that finds nothing leaves a single piece. -/
theorem piecesFrom_of_findLineEndFrom_none
    {encoding : Encoding}
    {body bytes : Bytes}
    {index : Nat}
    (h : encoding.findLineEndFrom index bytes = none) :
    encoding.piecesFrom body bytes = lastPiece (body.reverse ++ bytes) := by
  fun_induction findLineEndFrom encoding index bytes generalizing body with
  | case1 => cases h
  | case2 index byte rest hend ih =>
      have ht : Terminator.ofCode? byte.toNat = none := by simpa using hend
      rw [piecesFrom, ht]
      simp [ih h]
  | case3 => cases h
  | case4 order index first second rest hend ih =>
      have ht : Terminator.ofCode? (order.unit first second).toNat = none := by simpa using hend
      rw [piecesFrom, ht]
      simp [ih h]
  | case5 encoding index bytes hutf8 hutf16 =>
      unfold piecesFrom
      split
      · exact (hutf8 _ _ rfl rfl).elim
      · exact (hutf16 _ _ _ _ rfl rfl).elim
      · rfl

/-- What is cut off first is the first one of the pieces. -/
theorem pieces_eq_cons
    {encoding : Encoding}
    {bytes rest : Bytes}
    {piece : Piece}
    (h : encoding.cutPiece? bytes 0 = some (piece, rest)) :
    encoding.pieces bytes = piece :: encoding.pieces rest := by
  simp only [cutPiece?, findLineEnd, List.drop_zero, Option.map_eq_some_iff] at h
  obtain ⟨found, hfound, h⟩ := h
  simp only [Prod.mk.injEq] at h
  obtain ⟨rfl, rfl⟩ := h
  rw [pieces, piecesFrom_of_findLineEndFrom_some hfound]
  simp

/-- What cannot be cut is one piece, or none at all. -/
theorem pieces_of_cutPiece?_none
    {encoding : Encoding}
    {bytes : Bytes}
    (h : encoding.cutPiece? bytes 0 = none) :
    encoding.pieces bytes = lastPiece bytes := by
  simp only [cutPiece?, findLineEnd, List.drop_zero, Option.map_eq_none_iff] at h
  rw [pieces, piecesFrom_of_findLineEndFrom_none h]
  simp

end Cutting

section Spelling

/-- The bytes of a terminator. -/
def terminatorBytes (encoding : Encoding) : Terminator → Bytes
  | .lineFeed => encoding.encode ['\n']
  | .carriageReturn => encoding.encode ['\r']

/-- The bytes of a piece with its terminator. -/
def spelling (encoding : Encoding) (piece : Piece) : Bytes :=
  piece.body ++ (piece.terminator.map encoding.terminatorBytes).getD []

theorem ofCode?_eq_some
    {code : Nat}
    {terminator : Terminator}
    (h : Terminator.ofCode? code = some terminator) :
    terminator = .lineFeed ∧ code = 0x0A ∨ terminator = .carriageReturn ∧ code = 0x0D := by
  simp only [Terminator.ofCode?] at h
  split at h
  · simp_all
  · split at h <;> simp_all

theorem ofCode?_eq_none_iff
    {code : Nat} :
    Terminator.ofCode? code = none ↔ code ≠ 0x0A ∧ code ≠ 0x0D := by
  rw [Terminator.ofCode?]
  split
  · simp_all
  · split <;> simp_all

theorem terminatorBytes_utf8
    {byte : UInt8}
    {terminator : Terminator}
    (h : Terminator.ofCode? byte.toNat = some terminator) :
    utf8.terminatorBytes terminator = [byte] := by
  rcases ofCode?_eq_some h with ⟨rfl, hb⟩ | ⟨rfl, hb⟩
  · obtain rfl : byte = 0x0A := UInt8.toNat_inj.1 hb
    decide
  · obtain rfl : byte = 0x0D := UInt8.toNat_inj.1 hb
    decide

theorem terminatorBytes_utf16
    {order : Utf16.ByteOrder}
    {first second : UInt8}
    {terminator : Terminator}
    (h : Terminator.ofCode? (order.unit first second).toNat = some terminator) :
    (utf16 order).terminatorBytes terminator = [first, second] := by
  rw [← Utf16.bytes_unit order first second]
  rcases ofCode?_eq_some h with ⟨rfl, hu⟩ | ⟨rfl, hu⟩
  · have hunit : order.unit first second = 0x0A := UInt16.toNat_inj.1 hu
    rw [hunit]
    cases order <;> decide
  · have hunit : order.unit first second = 0x0D := UInt16.toNat_inj.1 hu
    rw [hunit]
    cases order <;> decide

theorem flatMap_spelling_lastPiece
    (encoding : Encoding)
    (body : Bytes) :
    (lastPiece body).flatMap encoding.spelling = body := by
  rw [lastPiece]
  split
  · simp_all
  · simp [spelling, Piece.unterminated]

theorem flatMap_spelling_piecesFrom
    (encoding : Encoding)
    (body bytes : Bytes) :
    (encoding.piecesFrom body bytes).flatMap encoding.spelling = body.reverse ++ bytes := by
  fun_induction piecesFrom encoding body bytes with
  | case1 body byte rest terminator ht ih =>
      simp [spelling, terminatorBytes_utf8 ht, ih]
  | case2 body byte rest ht ih =>
      simp [ih]
  | case3 order body first second rest terminator ht ih =>
      simp [spelling, terminatorBytes_utf16 ht, ih]
  | case4 order body first second rest ht ih =>
      simp [ih]
  | case5 encoding body rest =>
      exact flatMap_spelling_lastPiece encoding _

/-- The pieces and their terminators in a row are the bytes again. -/
theorem flatMap_spelling_pieces
    (encoding : Encoding)
    (bytes : Bytes) :
    (encoding.pieces bytes).flatMap encoding.spelling = bytes := by
  simpa [pieces] using flatMap_spelling_piecesFrom encoding [] bytes

end Spelling

end XmlPreamble.Encoding
