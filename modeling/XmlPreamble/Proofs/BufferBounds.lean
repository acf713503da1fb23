import XmlPreamble.Proofs.BufferedReading

/-!
# The length of the buffer of a line reader

The buffer of a line reader is doubled for a line that does not fit, so it never has more than twice
the length of such a line.  A line counts for that as soon as a call looks for it, whether or not it
turns out to be text, and also when the source fails before the line is complete: bytes in which no
line is complete are no longer than the line that they begin, and the mended reader, whose source
never fails, tells which line that is.

Main statements:

- `LineReader.size_seekPiece`: the buffer is enlarged to no more than twice the line looked for;
- `LineReader.size_afterCalls`: so it is over any number of calls;
- `LineReader.buffer_bounds`: the buffer after any number of calls, and on the way there.
-/

namespace XmlPreamble

namespace LineReader

open Encoding Detection

/-- The number of lines that calls have come to: those that they handed on, as text or as the error
of what is not text, and the one that the last call was looking for if it handed on a failure. -/
def linesComeTo (calls : List LineCall) : Nat :=
  (calls.filterMap LineCall.reading?).length +
    if (calls.getLast?.bind LineCall.failure?).isSome then 1 else 0

section Growth

variable {capacity searched : Nat}
variable {reader next : LineReader}
variable {encoding : Encoding}

theorem length_le_wholeUnits_add
    (encoding : Encoding)
    (count : Nat) :
    count ≤ encoding.wholeUnits count + encoding.unitLength := by
  have hmod := Nat.mod_lt count encoding.unitLength_pos
  rw [wholeUnits]
  omega

/-- Bytes in which no line is complete are no longer than the line that they begin. -/
theorem length_le_size_of_head?
    {bytes more : Bytes}
    {line : Piece}
    (hcut : encoding.cutPiece? bytes 0 = none)
    (hline : (encoding.pieces (bytes ++ more)).head? = some line) :
    bytes.length ≤ line.size encoding := by
  cases hwhole : encoding.cutPiece? (bytes ++ more) 0 with
  | none =>
      rw [pieces_of_cutPiece?_none hwhole, lastPiece] at hline
      split at hline
      · cases hline
      · cases hline
        simp [Piece.size, Piece.unterminated]
  | some found =>
      obtain ⟨piece, rest⟩ := found
      rw [pieces_eq_cons hwhole] at hline
      cases hline
      have hterminated := isSome_terminator_of_cutPiece? hwhole
      simp only [cutPiece?, findLineEnd, List.drop_zero, Option.map_eq_some_iff] at hwhole
      obtain ⟨index, hindex, hwhole⟩ := hwhole
      have hbound := (findLineEndFrom_bounds hindex).2
      rw [findLineEndFrom_append_of_none more (findLineEnd_eq_none_of_cutPiece? hcut)] at hindex
      have hbehind := (findLineEndFrom_bounds hindex).1
      have hunits := length_le_wholeUnits_add encoding bytes.length
      cases hwhole
      have hbody : ((bytes ++ more).take index).length = index :=
        List.length_take_of_le (by omega)
      rw [Piece.size, if_pos hterminated, hbody]
      omega

theorem exists_head?_pieces
    (encoding : Encoding)
    {bytes : Bytes}
    (hne : bytes ≠ []) :
    ∃ line, (encoding.pieces bytes).head? = some line := by
  cases hpieces : encoding.pieces bytes with
  | nil =>
      have hspelling := flatMap_spelling_pieces encoding bytes
      rw [hpieces] at hspelling
      exact absurd hspelling.symm hne
  | cons line others => exact ⟨line, rfl⟩

/-- A refill enlarges the buffer to no more than twice the line that it is made for. -/
theorem size_fill_le
    (hsized : reader.Sized)
    (hcut : encoding.cutPiece? reader.unread 0 = none) :
    reader.fill.2.size ≤ reader.size ∨
      ∃ line, (encoding.pieces reader.mended.ahead).head? = some line ∧
        reader.fill.2.size ≤ 2 * line.size encoding := by
  rcases size_fill reader with hsize | ⟨hsize, hfull⟩
  · exact Or.inl (Nat.le_of_eq hsize)
  · rw [ahead_mended]
    have hne : reader.unread ≠ [] := by
      intro hempty
      have hpos := hsized.size_pos
      rw [← hfull, hempty] at hpos
      cases hpos
    obtain ⟨line, hline⟩ := exists_head?_pieces encoding (List.append_ne_nil_of_left_ne_nil hne _)
    have hlength := length_le_size_of_head? hcut hline
    exact Or.inr ⟨line, hline, by omega⟩

/-- The buffer is not enlarged for the bytes that tell the encoding. -/
theorem size_fillForSniffing
    (hwithin : reader.WithinBuffer capacity)
    (hunsettled : reader.encoding = none) :
    reader.fillForSniffing.2.size = reader.size := by
  have hfilled {reader next : LineReader} {outcome : Except IoError Bool}
      (hwithin : reader.WithinBuffer capacity)
      (hshort : reader.unread.length < sniffLength)
      (hfill : reader.fill = (outcome, next)) : next.size = reader.size := by
    have hlong := hwithin.sniffLength_le
    have hsize := size_fill reader
    rw [hfill] at hsize
    rcases hsize with hsize | ⟨-, hfull⟩
    · exact hsize
    · omega
  fun_induction fillForSniffing reader with
  | case1 reader hshort error next hfill => exact hfilled hwithin hshort hfill
  | case2 reader hshort next hfill => exact hfilled hwithin hshort hfill
  | case3 reader hshort next hfill ih =>
      have hstep := step_of_fill (lacks_of_short hunsettled hshort) hfill
      exact (ih (hstep.withinBuffer hwithin) ((encoding_of_fill hfill).trans hunsettled)).trans
        (hfilled hwithin hshort hfill)
  | case4 reader hlong => rfl

theorem size_requireEncoding
    (hwithin : reader.WithinBuffer capacity) :
    reader.requireEncoding.2.size = reader.size := by
  rw [requireEncoding]
  split
  · rfl
  · rename_i hunsettled
    have hsize := size_fillForSniffing hwithin hunsettled
    split
    · rename_i hfilled
      rwa [hfilled] at hsize
    · rename_i hfilled
      rw [hfilled] at hsize
      exact hsize

/-- The buffer is enlarged to no more than twice the line that is looked for. -/
theorem size_seekPiece
    (hsized : reader.Sized)
    (hsearched : encoding.SearchedTo reader.unread searched) :
    (reader.seekPiece encoding searched).2.size ≤ reader.size ∨
      ∃ line, (encoding.pieces reader.mended.ahead).head? = some line ∧
        (reader.seekPiece encoding searched).2.size ≤ 2 * line.size encoding := by
  have hfilled {reader next : LineReader} {searched : Nat} {outcome : Except IoError Bool}
      (hsized : reader.Sized)
      (hsearched : encoding.SearchedTo reader.unread searched)
      (hcut : encoding.cutPiece? reader.unread searched = none)
      (hfill : reader.fill = (outcome, next)) :
      next.size ≤ reader.size ∨
        ∃ line, (encoding.pieces reader.mended.ahead).head? = some line ∧
          next.size ≤ 2 * line.size encoding := by
    rw [hsearched.cutPiece?_eq] at hcut
    have hsize := size_fill_le hsized hcut
    rwa [hfill] at hsize
  fun_induction seekPiece reader encoding searched with
  | case1 reader searched found hcut => exact Or.inl (Nat.le_refl _)
  | case2 reader searched hcut error after hfill => exact hfilled hsized hsearched hcut hfill
  | case3 reader searched hcut after hfill ih =>
      obtain ⟨hsame, more, hunread⟩ := fill_true hsized hfill
      have hextend := hsearched.extend hcut more
      rw [← hunread] at hextend
      have hahead := (fill_true (sized_mended hsized) (fill_mended hsized hfill).1).1.ahead
      rcases ih hsame.sized hextend with hsize | ⟨line, hline, hsize⟩
      · rcases hfilled hsized hsearched hcut hfill with hgrown | ⟨line, hline, hgrown⟩
        · exact Or.inl (Nat.le_trans hsize hgrown)
        · exact Or.inr ⟨line, hline, Nat.le_trans hsize hgrown⟩
      · rw [hahead] at hline
        exact Or.inr ⟨line, hline, hsize⟩
  | case4 reader searched hcut after hfill hempty => exact hfilled hsized hsearched hcut hfill
  | case5 reader searched hcut after hfill hne => exact hfilled hsized hsearched hcut hfill

/-- A call enlarges the buffer to no more than twice the line that it is made for. -/
theorem size_nextLine
    (hwithin : reader.WithinBuffer capacity) :
    reader.nextLine.2.size ≤ reader.size ∨
      ∃ line, reader.mended.piecesAhead.head? = some line ∧
        reader.nextLine.2.size ≤ 2 * line.size reader.mended.encodingAhead := by
  have hready := size_requireEncoding hwithin
  cases hrequire : reader.requireEncoding with
  | mk told ready =>
      rw [hrequire] at hready
      cases told with
      | error error =>
          simp only [nextLine, hrequire]
          exact Or.inl (Nat.le_of_eq hready)
      | ok encoding =>
          have hsettles := requireEncoding_ok (sized_mended hwithin.sized)
            (requireEncoding_mended hwithin.sized hrequire).1
          have hsized : ready.Sized := ⟨hsettles.sized.size_pos, hsettles.sized.unread_le⟩
          have hsought := size_seekPiece hsized (searchedTo_zero encoding ready.unread)
          rw [hsettles.pieces, hready, hsettles.sniffed] at hsought
          have hnext : reader.nextLine.2.size =
              (ready.seekPiece reader.mended.encodingAhead 0).2.size := by
            rw [← hsettles.sniffed]
            simp only [nextLine, hrequire]
            split
            · rename_i hseek
              rw [hseek]
            · rename_i hseek
              rw [hseek]
            · rename_i hseek
              rw [hseek]
              split <;> rfl
          rwa [hnext]

end Growth

section Runs

variable {capacity : Nat}
variable {reader : LineReader}

theorem afterCalls_nextLine
    (reader : LineReader)
    (count : Nat) :
    reader.nextLine.2.afterCalls count = (reader.afterCalls count).nextLine.2 := by
  induction count with
  | zero => rfl
  | succ count ih => rw [afterCalls, ih, afterCalls]

/-- The last call is made on the reader that the others leave behind. -/
theorem calls_succ
    (reader : LineReader)
    (count : Nat) :
    reader.calls (count + 1) = reader.calls count ++
      [⟨reader.afterCalls count, (reader.afterCalls count).nextLine.1,
        (reader.afterCalls count).nextLine.2⟩] := by
  induction count generalizing reader with
  | zero => rfl
  | succ count ih =>
      rw [calls, ih, afterCalls_nextLine]
      rfl

theorem sized_afterCalls
    (hsized : reader.Sized)
    (count : Nat) :
    (reader.afterCalls count).Sized := by
  induction count with
  | zero => exact hsized
  | succ count ih => exact sized_nextLine ih

/-- Behind some calls lie the pieces that they have not handed on. -/
theorem piecesAhead_afterCalls
    (hsized : reader.Sized)
    (count : Nat) :
    (reader.afterCalls count).mended.piecesAhead =
        reader.mended.piecesAhead.drop ((reader.calls count).filterMap LineCall.reading?).length ∧
      (reader.afterCalls count).mended.encodingAhead = reader.mended.encodingAhead := by
  induction count with
  | zero => exact ⟨rfl, rfl⟩
  | succ count ih =>
      obtain ⟨hpieces, hencoding⟩ := ih
      have hanswers := nextLine_answers (sized_afterCalls hsized count)
      rw [calls_succ, List.filterMap_append, List.length_append, afterCalls]
      generalize (reader.afterCalls count).nextLine = outcome at hanswers
      have hbehind {piece : Piece} {next : LineReader}
          (hpasses : (reader.afterCalls count).mended.Passes piece next.mended) :
          next.mended.piecesAhead = reader.mended.piecesAhead.drop
            (((reader.calls count).filterMap LineCall.reading?).length + 1) := by
        rw [← List.tail_drop, ← hpieces, hpasses.pieces]
        rfl
      cases hanswers with
      | failed hstays _ =>
          exact ⟨hstays.piecesAhead.trans hpieces, hstays.encodingAhead.trans hencoding⟩
      | line hpasses _ _ =>
          exact ⟨hbehind hpasses, hpasses.encodingAhead.trans hencoding⟩
      | undecodable hpasses _ _ =>
          exact ⟨hbehind hpasses, hpasses.encodingAhead.trans hencoding⟩
      | ended hstays _ _ _ =>
          exact ⟨hstays.piecesAhead.trans hpieces, hstays.encodingAhead.trans hencoding⟩

theorem linesComeTo_le
    (calls : List LineCall) :
    linesComeTo calls ≤ (calls.filterMap LineCall.reading?).length + 1 := by
  rw [linesComeTo]
  split <;> omega

/-- A call that does not come to the end comes to a line. -/
theorem linesComeTo_concat
    {call : LineCall}
    (calls : List LineCall)
    (h : call.answer ≠ .ok none) :
    linesComeTo (calls ++ [call]) = (calls.filterMap LineCall.reading?).length + 1 := by
  rcases call with ⟨before, (error | fault) | _ | text, after⟩
  · simp [linesComeTo, LineCall.reading?, LineCall.failure?]
  · simp [linesComeTo, LineCall.reading?, LineCall.failure?]
  · exact absurd rfl h
  · simp [linesComeTo, LineCall.reading?, LineCall.failure?]

/-- The next piece is one of those that a further call comes to. -/
theorem mem_take_of_head?_drop
    {lines : List Piece}
    {line : Piece}
    {handed : Nat}
    (h : (lines.drop handed).head? = some line) :
    line ∈ lines.take (handed + 1) := by
  rw [List.head?_drop] at h
  refine List.mem_of_getElem? (i := handed) ?_
  rw [List.getElem?_take_of_lt (Nat.lt_succ_self handed), h]

/-- The buffer is no longer than at the beginning, or than twice a line that the calls have come
to. -/
theorem size_afterCalls
    (hwithin : reader.WithinBuffer capacity)
    (count : Nat) :
    (reader.afterCalls count).size ≤ reader.size ∨
      ∃ line ∈ reader.mended.piecesAhead.take (linesComeTo (reader.calls count)),
        (reader.afterCalls count).size ≤ 2 * line.size reader.mended.encodingAhead := by
  induction count with
  | zero => exact Or.inl (Nat.le_refl _)
  | succ count ih =>
      have hstate := withinBuffer_of_steps (steps_afterCalls reader count) hwithin
      obtain ⟨hpieces, hencoding⟩ := piecesAhead_afterCalls hwithin.sized count
      have hgrowth := size_nextLine hstate
      have hcome := linesComeTo_le (reader.calls count)
      rw [hpieces, hencoding] at hgrowth
      rw [calls_succ, afterCalls]
      by_cases hend : (reader.afterCalls count).nextLine.1 = .ok none
      · -- Nothing is ahead, so the calls have come to all pieces.
        have hnothing : reader.mended.piecesAhead.drop
            ((reader.calls count).filterMap LineCall.reading?).length = [] := by
          have hanswers := nextLine_answers hstate.sized
          rw [← hpieces]
          generalize (reader.afterCalls count).nextLine = outcome at hanswers hend
          cases hanswers with
          | failed => cases hend
          | line => cases hend
          | undecodable => cases hend
          | ended _ hpieces _ _ => exact hpieces
        have hsize :
            (reader.afterCalls count).nextLine.2.size ≤ (reader.afterCalls count).size := by
          rcases hgrowth with hsize | ⟨line, hline, -⟩
          · exact hsize
          · rw [hnothing] at hline
            cases hline
        have hall : reader.mended.piecesAhead.length ≤ linesComeTo (reader.calls count ++
            [⟨reader.afterCalls count, (reader.afterCalls count).nextLine.1,
              (reader.afterCalls count).nextLine.2⟩]) := by
          have hlength := List.drop_eq_nil_iff.1 hnothing
          rw [linesComeTo, List.filterMap_append, List.length_append]
          omega
        rcases ih with hbound | ⟨line, hline, hbound⟩
        · exact Or.inl (Nat.le_trans hsize hbound)
        · refine Or.inr ⟨line, ?_, Nat.le_trans hsize hbound⟩
          rw [List.take_of_length_le hall]
          exact List.mem_of_mem_take hline
      · rw [linesComeTo_concat _ hend]
        rcases hgrowth with hsize | ⟨line, hline, hsize⟩
        · rcases ih with hbound | ⟨line, hline, hbound⟩
          · exact Or.inl (Nat.le_trans hsize hbound)
          · exact Or.inr ⟨line, List.take_subset_take_left _ hcome hline,
              Nat.le_trans hsize hbound⟩
        · exact Or.inr ⟨line, mem_take_of_head?_drop hline, hsize⟩

end Runs

section Main

/-- **The buffer of a reader.**  Every number of calls for a line is a chain of steps.  In every
state on the way the unread bytes lie within the buffer, and the buffer has the length that it had
at the beginning, doubled a number of times.  In every step the source is asked for what fits behind
the unread bytes, which is never nothing, so that it brings nothing only at the end of the input;
the buffer is doubled only when it is full and no line in it is complete; and never more is passed
over than what is unread.  Between two calls the buffer is no longer than at the beginning, or than
twice a line that the calls have come to.  A reader that has its buffer with all the bytes in it,
and that would stop where the unread bytes end, does the same: between any two calls its two places
lie in order within the buffer, all else about it is as told, and the next call gives the same
answer. -/
theorem buffer_bounds
    (script : List Delivery)
    (capacity : Nat) :
    let reader := ofSource ⟨script, []⟩ capacity
    let document := Source.delivered script
    let lines := documentPieces (sniff document) document
    (∀ count, Relation.ReflTransGen Step reader (reader.afterCalls count)) ∧
      (∀ state, Relation.ReflTransGen Step reader state →
        state.WithinBuffer capacity ∧ ∀ next, state.Step next → state.SoundStep next) ∧
      (∀ count,
        (reader.afterCalls count).size ≤ max capacity sniffLength ∨
          ∃ line ∈ lines.take (linesComeTo (reader.calls count)),
            (reader.afterCalls count).size ≤ 2 * line.size (sniff document)) ∧
      ∀ count,
        let held := (BufferedReader.ofSource ⟨script, []⟩ capacity).afterCalls count
        held.start ≤ held.stop ∧ held.stop ≤ held.buffer.length ∧
          held.toLineReader = reader.afterCalls count ∧
          held.nextLine.1 = (reader.afterCalls count).nextLine.1 := by
  intro reader document lines
  have hwithin : reader.WithinBuffer capacity := withinBuffer_ofSource script capacity
  have hahead : reader.mended.ahead = document := ahead_mended reader
  have hencoding : reader.mended.encodingAhead = sniff document := by
    rw [← hahead]
    rfl
  have hpieces : reader.mended.piecesAhead = lines := by
    simp only [lines, ← hahead]
    rfl
  refine ⟨steps_afterCalls reader, ?_, ?_, ?_⟩
  · intro state hsteps
    have hstate := withinBuffer_of_steps hsteps hwithin
    exact ⟨hstate, fun next hstep => hstep.sound hstate⟩
  · intro count
    have hsize := size_afterCalls hwithin count
    rw [hpieces, hencoding] at hsize
    exact hsize
  · intro count held
    have htold : held.toLineReader = reader.afterCalls count := by
      rw [BufferedReader.toLineReader_afterCalls, BufferedReader.toLineReader_ofSource]
    refine ⟨held.start_le, held.stop_le, htold, ?_⟩
    rw [← htold, BufferedReader.toLineReader_nextLine]

/-- Ten bytes that no text contains, and a line feed. -/
def undecodable : List Delivery :=
  [.bytes (List.replicate 10 0xFF ++ [0x0A])]

/-- Three bytes behind which the source fails. -/
def brokenOff : List Delivery :=
  [.bytes [0x61, 0x62, 0x63], .failure (.ofKind .other)]

/-- The bound by a line that is no text, and by one that the source breaks off. -/
theorem buffer_bounds_without_text :
    ((ofSource ⟨undecodable, []⟩ 3).afterCalls 1).WithinBuffer 3 ∧
      (∃ line ∈ [Piece.mk (List.replicate 10 0xFF) (some .lineFeed)],
        ((ofSource ⟨undecodable, []⟩ 3).afterCalls 1).size ≤ 2 * line.size utf8) ∧
      ((ofSource ⟨brokenOff, []⟩ 3).afterCalls 1).WithinBuffer 3 ∧
      ∃ line ∈ [Piece.unterminated [0x61, 0x62, 0x63]],
        ((ofSource ⟨brokenOff, []⟩ 3).afterCalls 1).size ≤ 2 * line.size utf8 := by
  obtain ⟨hsteps, hstates, hsize, -⟩ := buffer_bounds undecodable 3
  obtain ⟨hsteps', hstates', hsize', -⟩ := buffer_bounds brokenOff 3
  have hlines : (documentPieces utf8 (Source.delivered undecodable)).take
      (linesComeTo ((ofSource ⟨undecodable, []⟩ 3).calls 1)) =
        [Piece.mk (List.replicate 10 0xFF) (some .lineFeed)] := by
    decide +kernel
  have hlines' : (documentPieces utf8 (Source.delivered brokenOff)).take
      (linesComeTo ((ofSource ⟨brokenOff, []⟩ 3).calls 1)) =
        [Piece.unterminated [0x61, 0x62, 0x63]] := by
    decide +kernel
  have hencoding : sniff (Source.delivered undecodable) = utf8 := by decide +kernel
  have hencoding' : sniff (Source.delivered brokenOff) = utf8 := by decide +kernel
  have hbound := (hsize 1).resolve_left (by decide +kernel)
  have hbound' := (hsize' 1).resolve_left (by decide +kernel)
  rw [hencoding, hlines] at hbound
  rw [hencoding', hlines'] at hbound'
  exact ⟨(hstates _ (hsteps 1)).1, hbound, (hstates' _ (hsteps' 1)).1, hbound'⟩

/-- The buffer grows although no line is handed on: a line that is no text is passed over all the
same, and one that the source breaks off is kept. -/
theorem buffer_grows_without_text :
    ((∀ call ∈ (ofSource ⟨undecodable, []⟩ 3).calls 3, call.answer.toOption.join = none) ∧
        max 3 sniffLength < ((ofSource ⟨undecodable, []⟩ 3).afterCalls 3).size) ∧
      (∀ call ∈ (ofSource ⟨brokenOff, []⟩ 3).calls 1, call.answer.toOption.join = none) ∧
        max 3 sniffLength < ((ofSource ⟨brokenOff, []⟩ 3).afterCalls 1).size := by
  decide +kernel

end Main

end LineReader

end XmlPreamble
