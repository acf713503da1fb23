import XmlPreamble.LineReader
import XmlPreamble.Proofs.Delivery
import XmlPreamble.Proofs.LineSearch
import XmlPreamble.Proofs.Sniffing

/-!
# The lines that a reader hands on

A line reader stands somewhere in a document, part of which is in its buffer while the rest is
still to come.  Refills move bytes from one to the other, and compaction and growth only change
where in the buffer they lie; none of this changes what lies ahead.  This module connects every
operation of a reader with the bytes ahead of it, and `nextLine` with the pieces of them.

Main statements:

- `fill_true`, `fill_false` and `fill_error`: a refill stays at the same place of the document;
- `seekPiece_some`, `seekPiece_none` and `seekPiece_error`: the piece found is the first one ahead;
- `nextLine_some`, `nextLine_decode`, `nextLine_none` and `nextLine_io`: a line is taken off the
  front of the pieces ahead, and the source's failure shows only when none of them is complete.
-/

namespace XmlPreamble
namespace LineReader

open Encoding Detection

section Place

/-- The bytes that have not been handed on, whether they are in the buffer or still to come. -/
def ahead (reader : LineReader) : Bytes :=
  reader.unread ++ if reader.exhausted then [] else Source.upcoming reader.source.script

/-- The failure that a reader meets behind the bytes ahead, unless the input ends there. -/
def obstacle? (reader : LineReader) : Option IoError :=
  if reader.exhausted then none else Source.obstacle? reader.source.script

/-- The buffer is large enough for what is in it, and not empty. -/
structure Sized (reader : LineReader) : Prop where
  size_pos : 0 < reader.size
  unread_le : reader.unread.length ≤ reader.size

/-- Two readers stand at the same place of the same document. -/
structure SamePlace (reader next : LineReader) : Prop where
  sized : next.Sized
  ahead : next.ahead = reader.ahead
  obstacle : next.obstacle? = reader.obstacle?
  encoding : next.encoding = reader.encoding
  count : next.count = reader.count

theorem SamePlace.refl {reader : LineReader} (h : reader.Sized) : reader.SamePlace reader :=
  ⟨h, rfl, rfl, rfl, rfl⟩

theorem SamePlace.trans
    {first second third : LineReader}
    (h₁ : first.SamePlace second)
    (h₂ : second.SamePlace third) :
    first.SamePlace third where
  sized := h₂.sized
  ahead := h₂.ahead.trans h₁.ahead
  obstacle := h₂.obstacle.trans h₁.obstacle
  encoding := h₂.encoding.trans h₁.encoding
  count := h₂.count.trans h₁.count

theorem sized_ofSource
    (source : Source)
    (capacity : Nat) :
    (ofSource source capacity).Sized where
  size_pos := Nat.lt_of_lt_of_le (by decide) (Nat.le_max_right _ _)
  unread_le := Nat.zero_le _

end Place

section Filling

variable {reader next : LineReader}

@[simp] theorem source_makeRoom : reader.makeRoom.source = reader.source := rfl

@[simp] theorem unread_makeRoom : reader.makeRoom.unread = reader.unread := rfl

@[simp] theorem exhausted_makeRoom : reader.makeRoom.exhausted = reader.exhausted := rfl

/-- Behind the unread bytes there is room. -/
theorem room_makeRoom (hsized : reader.Sized) : reader.unread.length < reader.makeRoom.size := by
  obtain ⟨hpos, hle⟩ := hsized
  simp only [makeRoom, grownSize]
  split <;> omega

/-- A refill that delivers bytes stays at the same place. -/
theorem fill_true
    (hsized : reader.Sized)
    (h : reader.fill = (.ok true, next)) :
    reader.SamePlace next ∧ ∃ more, next.unread = reader.unread ++ more := by
  have hroom := room_makeRoom hsized
  simp only [fill, source_makeRoom, unread_makeRoom] at h
  split at h
  · simp at h
  · rename_i hopen
    split at h
    · simp at h
    · simp at h
    · rename_i byte more source hread
      have hlen := Source.length_readThrough_le hread
      obtain ⟨hupcoming, hobstacle⟩ := Source.readThrough_cons (List.cons_ne_nil _ _) hread
      simp only [Prod.mk.injEq, true_and] at h
      subst h
      have hfit : (reader.unread ++ byte :: more).length ≤ reader.makeRoom.size := by
        rw [List.length_append]
        omega
      refine ⟨⟨⟨Nat.zero_lt_of_lt hroom, hfit⟩, ?_, ?_, rfl, rfl⟩, byte :: more, rfl⟩
      · simp [ahead, hopen, hupcoming]
      · simp [obstacle?, hopen, hobstacle]

/-- A refill that delivers nothing stays at the same place, and nothing is still to come. -/
theorem fill_false
    (hsized : reader.Sized)
    (h : reader.fill = (.ok false, next)) :
    reader.SamePlace next ∧ next.unread = reader.unread ∧
      reader.ahead = reader.unread ∧ reader.obstacle? = none := by
  have hroom := room_makeRoom hsized
  simp only [fill, source_makeRoom, unread_makeRoom] at h
  split at h
  · rename_i hclosed
    simp only [Prod.mk.injEq, true_and] at h
    subst h
    refine ⟨.refl hsized, rfl, ?_, ?_⟩
    · rw [ahead, if_pos hclosed, List.append_nil]
    · rw [obstacle?, if_pos hclosed]
  · rename_i hopen
    split at h
    · simp at h
    · rename_i source hread
      obtain ⟨hupcoming, hobstacle⟩ := Source.readThrough_nil (by omega) hread
      have hahead : reader.ahead = reader.unread := by
        rw [ahead, if_neg hopen, hupcoming, List.append_nil]
      have hfree : reader.obstacle? = none := by
        rw [obstacle?, if_neg hopen, hobstacle]
      simp only [Prod.mk.injEq, true_and] at h
      subst h
      refine ⟨⟨⟨Nat.zero_lt_of_lt hroom, Nat.le_of_lt hroom⟩, ?_, ?_, rfl, rfl⟩, rfl, hahead, hfree⟩
      · rw [hahead]
        exact List.append_nil _
      · rw [hfree]
        rfl
    · simp at h

/-- A refill fails only when nothing is to come before the source's failure. -/
theorem fill_error
    {error : IoError}
    (h : reader.fill = (.error error, next)) :
    reader.ahead = reader.unread ∧ reader.obstacle? = some error := by
  simp only [fill, source_makeRoom, unread_makeRoom] at h
  split at h
  · simp at h
  · rename_i hopen
    split at h
    · rename_i found source hread
      obtain ⟨hupcoming, hobstacle⟩ := Source.readThrough_error hread
      simp only [Prod.mk.injEq, Except.error.injEq] at h
      rw [ahead, obstacle?, if_neg hopen, if_neg hopen, hupcoming, hobstacle, h.1]
      exact ⟨List.append_nil _, rfl⟩
    · simp at h
    · simp at h

end Filling

section Encodings

variable {reader next : LineReader}

/-- The encoding in which a reader reads the bytes ahead. -/
def encodingAhead (reader : LineReader) : Encoding :=
  reader.encoding.getD (sniff reader.ahead)

/-- The pieces of the bytes ahead. -/
def piecesAhead (reader : LineReader) : List Piece :=
  match reader.encoding with
  | some encoding => encoding.pieces reader.ahead
  | none => documentPieces (sniff reader.ahead) reader.ahead

theorem fillForSniffing_ok
    (hsized : reader.Sized)
    (h : reader.fillForSniffing = (.ok (), next)) :
    reader.SamePlace next ∧
      (sniffLength ≤ next.unread.length ∨ next.ahead = next.unread) := by
  fun_induction fillForSniffing reader with
  | case1 reader hshort error after hfill =>
      simp at h
  | case2 reader hshort after hfill =>
      obtain ⟨hsame, hunread, hahead, -⟩ := fill_false hsized hfill
      simp only [Prod.mk.injEq, true_and] at h
      subst h
      refine ⟨hsame, Or.inr ?_⟩
      rw [hsame.ahead, hahead, hunread]
  | case3 reader hshort after hfill ih =>
      obtain ⟨hsame, -⟩ := fill_true hsized hfill
      obtain ⟨hsame', henough⟩ := ih hsame.sized h
      exact ⟨hsame.trans hsame', henough⟩
  | case4 reader hlong =>
      simp only [Prod.mk.injEq, true_and] at h
      subst h
      exact ⟨.refl hsized, Or.inl (by omega)⟩

theorem fillForSniffing_error
    {error : IoError}
    (hsized : reader.Sized)
    (h : reader.fillForSniffing = (.error error, next)) :
    reader.ahead.length < sniffLength ∧ reader.obstacle? = some error := by
  fun_induction fillForSniffing reader with
  | case1 reader hshort found after hfill =>
      obtain ⟨hahead, hobstacle⟩ := fill_error hfill
      simp only [Prod.mk.injEq, Except.error.injEq] at h
      rw [hahead, hobstacle, h.1]
      exact ⟨hshort, rfl⟩
  | case2 reader hshort after hfill =>
      simp at h
  | case3 reader hshort after hfill ih =>
      obtain ⟨hsame, -⟩ := fill_true hsized hfill
      have hfound := ih hsame.sized h
      rwa [hsame.ahead, hsame.obstacle] at hfound
  | case4 reader hlong =>
      simp at h

/-- The reader is ready to look for lines, and stands where it stood but for a byte order mark. -/
structure Settles (reader : LineReader) (encoding : Encoding) (ready : LineReader) : Prop where
  sized : ready.Sized
  settled : ready.encoding = some encoding
  sniffed : encoding = reader.encodingAhead
  pieces : encoding.pieces ready.ahead = reader.piecesAhead
  obstacle : ready.obstacle? = reader.obstacle?
  count : ready.count = reader.count

/-- Bytes that are enough to tell the encoding tell it as all the bytes ahead do. -/
theorem settles_settleEncoding
    (hsized : reader.Sized)
    (hunsettled : reader.encoding = none)
    (henough : sniffLength ≤ reader.unread.length ∨ reader.ahead = reader.unread) :
    reader.Settles (sniff reader.unread) reader.settleEncoding := by
  have hmark := (sniff reader.unread).signatureLength_le_length reader.unread
  have hsniff : sniff reader.unread = sniff reader.ahead := by
    rcases henough with hlong | hall
    · rw [ahead, sniff_append _ hlong]
    · rw [hall]
  refine ⟨⟨hsized.size_pos, ?_⟩, rfl, ?_, ?_, rfl, rfl⟩
  · exact Nat.le_trans (List.drop_sublist _ _).length_le hsized.unread_le
  · rw [encodingAhead, hunsettled, hsniff]
    rfl
  · have hpieces : reader.piecesAhead = documentPieces (sniff reader.unread) reader.ahead := by
      rw [piecesAhead, hunsettled, hsniff]
    rw [hpieces]
    -- Either the bytes settle the mark, or nothing is to come behind those that are there.
    rcases henough with hlong | hall
    · exact (documentPieces_append _ _ hlong).symm
    · have hrest : (if reader.exhausted then [] else Source.upcoming reader.source.script) = [] :=
        List.append_cancel_left (hall.trans (List.append_nil _).symm)
      have hahead : reader.settleEncoding.ahead =
          reader.unread.drop ((sniff reader.unread).signatureLength reader.unread) := by
        have hdone : reader.settleEncoding.ahead = _ ++
            (if reader.exhausted then [] else Source.upcoming reader.source.script) := rfl
        rw [hdone, hrest]
        exact List.append_nil _
      rw [hahead, hall, documentPieces]

theorem requireEncoding_ok
    {encoding : Encoding}
    {ready : LineReader}
    (hsized : reader.Sized)
    (h : reader.requireEncoding = (.ok encoding, ready)) :
    reader.Settles encoding ready := by
  simp only [requireEncoding] at h
  split at h
  · rename_i found hsettled
    simp only [Prod.mk.injEq, Except.ok.injEq] at h
    obtain ⟨rfl, rfl⟩ := h
    refine ⟨hsized, hsettled, ?_, ?_, rfl, rfl⟩
    · rw [encodingAhead, hsettled]
      rfl
    · rw [piecesAhead, hsettled]
  · rename_i hunsettled
    split at h
    · simp at h
    · rename_i filled hfill
      obtain ⟨hsame, henough⟩ := fillForSniffing_ok hsized hfill
      simp only [Prod.mk.injEq, Except.ok.injEq] at h
      obtain ⟨rfl, rfl⟩ := h
      have hnone : filled.encoding = none := hsame.encoding.trans hunsettled
      have hsettles := settles_settleEncoding hsame.sized hnone henough
      have hahead : filled.encodingAhead = reader.encodingAhead := by
        rw [encodingAhead, encodingAhead, hsame.encoding, hsame.ahead]
      have hpieces : filled.piecesAhead = reader.piecesAhead := by
        rw [piecesAhead, piecesAhead, hsame.encoding, hsame.ahead]
      exact ⟨hsettles.sized, hsettles.settled, hsettles.sniffed.trans hahead,
        hsettles.pieces.trans hpieces, hsettles.obstacle.trans hsame.obstacle,
        hsettles.count.trans hsame.count⟩

theorem requireEncoding_error
    {error : IoError}
    (hsized : reader.Sized)
    (h : reader.requireEncoding = (.error error, next)) :
    reader.obstacle? = some error := by
  simp only [requireEncoding] at h
  split at h
  · simp at h
  · split at h
    · rename_i found after hfill
      simp only [Prod.mk.injEq, Except.error.injEq] at h
      rw [← h.1]
      exact (fillForSniffing_error hsized hfill).2
    · simp at h

end Encodings

section Lines

variable {reader next : LineReader}
variable {encoding : Encoding}
variable {searched : Nat}
variable {piece : Piece}
variable {rest : Bytes}

/-- The piece that is found is the first of the pieces ahead, and the others lie behind it. -/
theorem seekPiece_some
    (hsized : reader.Sized)
    (hsearched : encoding.SearchedTo reader.unread searched)
    (h : reader.seekPiece encoding searched = (.ok (some (piece, rest)), next)) :
    reader.SamePlace next ∧ rest.length ≤ next.unread.length ∧
      encoding.pieces reader.ahead =
        piece :: encoding.pieces (next.pass encoding piece rest).ahead := by
  fun_induction seekPiece reader encoding searched with
  | case1 reader searched found hcut =>
      simp only [Prod.mk.injEq, Except.ok.injEq, Option.some.injEq] at h
      obtain ⟨rfl, rfl⟩ := h
      exact ⟨.refl hsized, Nat.le_of_lt (cutPiece?_rest_length_lt hcut),
        pieces_append_of_cutPiece?_some _ hsearched hcut⟩
  | case2 reader searched hcut error after hfill =>
      simp at h
  | case3 reader searched hcut after hfill ih =>
      obtain ⟨hsame, more, hunread⟩ := fill_true hsized hfill
      have hextend := hsearched.extend hcut more
      rw [← hunread] at hextend
      obtain ⟨hsame', hlen, hpieces⟩ := ih hsame.sized hextend h
      rw [hsame.ahead] at hpieces
      exact ⟨hsame.trans hsame', hlen, hpieces⟩
  | case4 reader searched hcut after hfill hempty =>
      simp at h
  | case5 reader searched hcut after hfill hne =>
      obtain ⟨hsame, hunread, hahead, -⟩ := fill_false hsized hfill
      simp only [Prod.mk.injEq, Except.ok.injEq, Option.some.injEq] at h
      obtain ⟨⟨rfl, rfl⟩, rfl⟩ := h
      refine ⟨hsame, Nat.zero_le _, ?_⟩
      have hrest : (if after.exhausted then [] else Source.upcoming after.source.script) = [] := by
        have hall : after.ahead = after.unread := by rw [hsame.ahead, hahead, hunread]
        exact List.append_cancel_left (hall.trans (List.append_nil _).symm)
      have hnothing : (after.pass encoding (.unterminated after.unread) []).ahead = [] :=
        hrest
      rw [hnothing, pieces_nil, hahead, pieces_of_searchedTo hsearched hcut, hunread, lastPiece,
        if_neg (by rwa [← hunread, List.isEmpty_iff])]

/-- The reader comes to the end of the input only when no piece is ahead. -/
theorem seekPiece_none
    (hsized : reader.Sized)
    (hsearched : encoding.SearchedTo reader.unread searched)
    (h : reader.seekPiece encoding searched = (.ok none, next)) :
    reader.SamePlace next ∧ encoding.pieces reader.ahead = [] := by
  fun_induction seekPiece reader encoding searched with
  | case1 reader searched found hcut =>
      simp at h
  | case2 reader searched hcut error after hfill =>
      simp at h
  | case3 reader searched hcut after hfill ih =>
      obtain ⟨hsame, more, hunread⟩ := fill_true hsized hfill
      have hextend := hsearched.extend hcut more
      rw [← hunread] at hextend
      obtain ⟨hsame', hpieces⟩ := ih hsame.sized hextend h
      rw [hsame.ahead] at hpieces
      exact ⟨hsame.trans hsame', hpieces⟩
  | case4 reader searched hcut after hfill hempty =>
      obtain ⟨hsame, hunread, hahead, -⟩ := fill_false hsized hfill
      simp only [Prod.mk.injEq, true_and] at h
      subst h
      refine ⟨hsame, ?_⟩
      rw [hahead, ← hunread, hempty, pieces_nil]
  | case5 reader searched hcut after hfill hne =>
      simp at h

/-- The source's failure shows only when no piece ahead is complete. -/
theorem seekPiece_error
    {error : IoError}
    (hsized : reader.Sized)
    (hsearched : encoding.SearchedTo reader.unread searched)
    (h : reader.seekPiece encoding searched = (.error error, next)) :
    encoding.pieces reader.ahead = lastPiece reader.ahead ∧ reader.obstacle? = some error := by
  fun_induction seekPiece reader encoding searched with
  | case1 reader searched found hcut =>
      simp at h
  | case2 reader searched hcut found after hfill =>
      obtain ⟨hahead, hobstacle⟩ := fill_error hfill
      simp only [Prod.mk.injEq, Except.error.injEq] at h
      rw [hahead, hobstacle, h.1]
      exact ⟨pieces_of_searchedTo hsearched hcut, rfl⟩
  | case3 reader searched hcut after hfill ih =>
      obtain ⟨hsame, more, hunread⟩ := fill_true hsized hfill
      have hextend := hsearched.extend hcut more
      rw [← hunread] at hextend
      have hfound := ih hsame.sized hextend h
      rwa [hsame.ahead, hsame.obstacle] at hfound
  | case4 reader searched hcut after hfill hempty =>
      simp at h
  | case5 reader searched hcut after hfill hne =>
      simp at h

/-- The reader has taken the first of the pieces ahead, and stands behind it. -/
structure Passes (reader : LineReader) (piece : Piece) (next : LineReader) : Prop where
  sized : next.Sized
  settled : next.encoding = some reader.encodingAhead
  pieces : reader.piecesAhead = piece :: next.piecesAhead
  obstacle : next.obstacle? = reader.obstacle?
  count : next.count = reader.count.advance piece

theorem Passes.encodingAhead
    (h : reader.Passes piece next) :
    next.encodingAhead = reader.encodingAhead := by
  rw [LineReader.encodingAhead, h.settled]
  rfl

theorem passes_of_seekPiece
    {ready : LineReader}
    (hsettles : reader.Settles encoding ready)
    (hseek : ready.seekPiece encoding 0 = (.ok (some (piece, rest)), next)) :
    reader.Passes piece (next.pass encoding piece rest) ∧ next.count = reader.count := by
  obtain ⟨hsame, hlen, hpieces⟩ :=
    seekPiece_some hsettles.sized (searchedTo_zero _ _) hseek
  have hsettled : next.encoding = some encoding := hsame.encoding.trans hsettles.settled
  have hcount : next.count = reader.count := hsame.count.trans hsettles.count
  refine ⟨⟨⟨hsame.sized.size_pos, Nat.le_trans hlen hsame.sized.unread_le⟩, ?_, ?_, ?_, ?_⟩, hcount⟩
  · exact hsettled.trans (congrArg some hsettles.sniffed)
  · have hbehind : (next.pass encoding piece rest).piecesAhead =
        encoding.pieces (next.pass encoding piece rest).ahead := by
      have hkept : (next.pass encoding piece rest).encoding = some encoding := hsettled
      rw [piecesAhead, hkept]
    rw [hbehind, ← hpieces, hsettles.pieces]
  · exact hsame.obstacle.trans hsettles.obstacle
  · exact congrArg (LineCount.advance · piece) hcount

/-- A line is the text of the first piece ahead. -/
theorem nextLine_some
    {text : List Char}
    (hsized : reader.Sized)
    (h : reader.nextLine = (.ok (some text), next)) :
    ∃ piece, reader.Passes piece next ∧
      reader.encodingAhead.decodePiece reader.count piece = .ok text := by
  simp only [nextLine] at h
  split at h
  · simp at h
  · rename_i encoding ready hencoding
    have hsettles := requireEncoding_ok hsized hencoding
    split at h
    · simp at h
    · simp at h
    · rename_i piece rest found hseek
      obtain ⟨hpasses, hcount⟩ := passes_of_seekPiece hsettles hseek
      split at h
      · rename_i decoded hdecode
        simp only [Prod.mk.injEq, Except.ok.injEq, Option.some.injEq] at h
        obtain ⟨rfl, rfl⟩ := h
        rw [hcount, hsettles.sniffed] at hdecode
        exact ⟨piece, hpasses, hdecode⟩
      · simp at h

/-- A decoding error is that of the first piece ahead, and the piece is passed all the same. -/
theorem nextLine_decode
    {error : DecodeError}
    (hsized : reader.Sized)
    (h : reader.nextLine = (.error (.decode error), next)) :
    ∃ piece, reader.Passes piece next ∧
      reader.encodingAhead.decodePiece reader.count piece = .error error := by
  simp only [nextLine] at h
  split at h
  · simp at h
  · rename_i encoding ready hencoding
    have hsettles := requireEncoding_ok hsized hencoding
    split at h
    · simp at h
    · simp at h
    · rename_i piece rest found hseek
      obtain ⟨hpasses, hcount⟩ := passes_of_seekPiece hsettles hseek
      split at h
      · simp at h
      · rename_i fault hdecode
        simp only [Prod.mk.injEq, Except.error.injEq, LineError.decode.injEq] at h
        obtain ⟨rfl, rfl⟩ := h
        rw [hcount, hsettles.sniffed] at hdecode
        exact ⟨piece, hpasses, hdecode⟩

/-- The lines come to an end only when no piece is ahead. -/
theorem nextLine_none
    (hsized : reader.Sized)
    (h : reader.nextLine = (.ok none, next)) :
    reader.piecesAhead = [] ∧ next.encoding = some reader.encodingAhead ∧
      next.count = reader.count := by
  simp only [nextLine] at h
  split at h
  · simp at h
  · rename_i encoding ready hencoding
    have hsettles := requireEncoding_ok hsized hencoding
    split at h
    · simp at h
    · rename_i found hseek
      obtain ⟨hsame, hpieces⟩ := seekPiece_none hsettles.sized (searchedTo_zero _ _) hseek
      simp only [Prod.mk.injEq, true_and] at h
      subst h
      refine ⟨hsettles.pieces.symm.trans hpieces, ?_, hsame.count.trans hsettles.count⟩
      rw [hsame.encoding, hsettles.settled, hsettles.sniffed]
    · split at h <;> simp at h

/-- A line that cannot be read for a failure meets the failure that lies behind the bytes ahead. -/
theorem nextLine_io
    {error : IoError}
    (hsized : reader.Sized)
    (h : reader.nextLine = (.error (.io error), next)) :
    reader.obstacle? = some error := by
  simp only [nextLine] at h
  split at h
  · rename_i found after hencoding
    simp only [Prod.mk.injEq, Except.error.injEq, LineError.io.injEq] at h
    rw [← h.1]
    exact requireEncoding_error hsized hencoding
  · rename_i encoding ready hencoding
    have hsettles := requireEncoding_ok hsized hencoding
    split at h
    · rename_i found after hseek
      simp only [Prod.mk.injEq, Except.error.injEq, LineError.io.injEq] at h
      rw [← h.1, ← hsettles.obstacle]
      exact (seekPiece_error hsettles.sized (searchedTo_zero _ _) hseek).2
    · simp at h
    · split at h <;> simp at h

end Lines

end LineReader
end XmlPreamble
