import XmlPreamble.Proofs.ReaderLines

/-!
# Reading on behind failures

A reader that has met a failure can be asked again, and then goes on where it was.  To tell where
that is, every reader is compared with its mended one, whose source delivers the same bytes without
ever failing for good.  A call that does not fail does to a reader what it does to the mended one; a
call that fails leaves the mended reader at its place.  So the lines that a reader hands on between
the failures are those that the mended reader hands on without a break.

Main statements:

- `LineReader.seekPiece_mended`, `LineReader.seekPiece_mended_of_error`: a search that does not fail
  is a search by the mended reader, and one that fails leaves the mended reader at its place;
- `LineReader.nextLine_answers`: all that a call for a line can do, failures included;
- `LineReader.calls_answers`: the calls on a reader hand on every piece ahead and every failure, once
  and in order, and then come to the end for ever;
- `LineReader.calls_ofSource`: what the calls on a new reader hand on, told from its source alone.
-/

namespace XmlPreamble

namespace Source

/-- The bytes that a source delivers before it reports its end, whatever failures lie between. -/
def delivered : List Delivery → Bytes
  | [] => []
  | .bytes [] :: _ => []
  | .bytes (byte :: more) :: script => byte :: more ++ delivered script
  | .failure _ :: script => delivered script

/-- The failures that a source reports before its end, without the interruptions. -/
def failures : List Delivery → List IoError
  | [] => []
  | .bytes [] :: _ => []
  | .bytes (_ :: _) :: script => failures script
  | .failure error :: script =>
      if error.kind = .interrupted then failures script else error :: failures script

/-- A script without its failures, but with its interruptions. -/
def mend : List Delivery → List Delivery
  | [] => []
  | .bytes data :: script => .bytes data :: mend script
  | .failure error :: script =>
      if error.kind = .interrupted then .failure error :: mend script else mend script

/-- The source that never fails for good. -/
def mended (source : Source) : Source :=
  { source with script := mend source.script }

section Scripts

theorem upcoming_mend (script : List Delivery) : upcoming (mend script) = delivered script := by
  fun_induction delivered script with
  | case1 =>
      rfl
  | case2 =>
      rfl
  | case3 byte more script ih =>
      rw [mend, upcoming, ih]
  | case4 error script ih =>
      rw [mend]
      split
      · rename_i hkind
        rw [upcoming, if_pos hkind, ih]
      · exact ih

theorem obstacle?_mend (script : List Delivery) : obstacle? (mend script) = none := by
  fun_induction mend script with
  | case1 =>
      rfl
  | case2 data script ih =>
      cases data with
      | nil => rfl
      | cons byte more => exact ih
  | case3 error script hkind ih =>
      rw [obstacle?, if_pos hkind, ih]
  | case4 error script hkind ih =>
      exact ih

/-- The first of the failures is the one that lies behind the upcoming bytes. -/
theorem head?_failures (script : List Delivery) : (failures script).head? = obstacle? script := by
  fun_induction obstacle? script with
  | case1 =>
      rfl
  | case2 =>
      rfl
  | case3 byte more script ih =>
      exact ih
  | case4 error script hkind ih =>
      rw [failures, if_pos hkind, ih]
  | case5 error script hkind =>
      rw [failures, if_neg hkind]
      rfl

end Scripts

section Calls

variable {source next : Source}
variable {offered : Nat}

theorem read_mended_of_interrupted
    {error : IoError}
    (hkind : error.kind = .interrupted)
    (h : source.read offered = (.error error, next)) :
    source.mended.read offered = (.error error, next.mended) := by
  rcases source with ⟨_ | ⟨_ | found, script⟩, calls⟩
  · simp [read] at h
  · simp [read] at h
  · simp only [read, Prod.mk.injEq, Except.error.injEq] at h
    obtain ⟨rfl, rfl⟩ := h
    simp only [mended, mend, hkind, if_true, read]

theorem read_mended
    {data : Bytes}
    (h : source.read offered = (.ok data, next)) :
    source.mended.read offered = (.ok data, next.mended) := by
  rcases source with ⟨_ | ⟨all | found, script⟩, calls⟩
  · simp only [read, Prod.mk.injEq, Except.ok.injEq] at h
    obtain ⟨rfl, rfl⟩ := h
    rfl
  · simp only [read, Prod.mk.injEq, Except.ok.injEq] at h
    obtain ⟨rfl, rfl⟩ := h
    simp only [mended, mend, read]
    cases all.drop offered with
    | nil => rfl
    | cons first others => rfl
  · simp [read] at h

/-- A call that delivers bytes uses up no failure. -/
theorem failures_read
    {data : Bytes}
    (hne : data ≠ [])
    (h : source.read offered = (.ok data, next)) :
    failures next.script = failures source.script := by
  rcases source with ⟨_ | ⟨all | found, script⟩, calls⟩
  · simp only [read, Prod.mk.injEq, Except.ok.injEq] at h
    exact absurd h.1.symm hne
  · simp only [read, Prod.mk.injEq, Except.ok.injEq] at h
    obtain ⟨rfl, rfl⟩ := h
    cases all with
    | nil =>
        simp at hne
    | cons byte more =>
        cases (byte :: more).drop offered with
        | nil => rfl
        | cons first others => rfl
  · simp [read] at h

/-- A repeated call that does not fail is a call on the mended source. -/
theorem readThrough_mended
    {data : Bytes}
    (h : source.readThrough offered = (.ok data, next)) :
    source.mended.readThrough offered = (.ok data, next.mended) := by
  fun_induction readThrough source offered with
  | case1 source error after hread hkind ih =>
      rw [← ih h, readThrough]
      split
      · rename_i found later hfound
        rw [read_mended_of_interrupted hkind hread] at hfound
        cases hfound
        rw [if_pos hkind]
      · rename_i found later hfound
        rw [read_mended_of_interrupted hkind hread] at hfound
        cases hfound
  | case2 source error after hread hkind =>
      cases h
  | case3 source found after hread =>
      cases h
      rw [readThrough]
      split
      · rename_i error later hfound
        rw [read_mended hread] at hfound
        cases hfound
      · rename_i error later hfound
        rw [read_mended hread] at hfound
        exact hfound.symm

theorem failures_readThrough
    {data : Bytes}
    (hne : data ≠ [])
    (h : source.readThrough offered = (.ok data, next)) :
    failures next.script = failures source.script := by
  fun_induction readThrough source offered with
  | case1 source error after hread hkind ih =>
      rw [read_error hread, failures, if_pos hkind]
      exact ih h
  | case2 source error after hread hkind =>
      cases h
  | case3 source found after hread =>
      cases h
      exact failures_read hne hread

/-- A repeated call that fails uses up one failure, and no bytes. -/
theorem delivered_readThrough_error
    {error : IoError}
    (h : source.readThrough offered = (.error error, next)) :
    delivered source.script = delivered next.script ∧
      failures source.script = error :: failures next.script := by
  fun_induction readThrough source offered with
  | case1 source found after hread hkind ih =>
      rw [read_error hread, delivered, failures, if_pos hkind]
      exact ih h
  | case2 source found after hread hkind =>
      cases h
      rw [read_error hread, delivered, failures, if_neg hkind]
      exact ⟨rfl, rfl⟩
  | case3 source found after hread =>
      cases h

end Calls

end Source

namespace LineReader

open Encoding Detection

section OneStep

variable {reader next : LineReader}
variable {source : Source}
variable {encoding : Encoding}
variable {searched : Nat}

theorem fill_of_nothing
    (hopen : reader.exhausted = false)
    (hread : reader.source.readThrough (reader.makeRoom.size - reader.unread.length) =
      (.ok [], source)) :
    reader.fill = (.ok false, { reader.makeRoom with source := source, exhausted := true }) := by
  rw [fill, hopen, if_neg Bool.false_ne_true]
  simp only [source_makeRoom, unread_makeRoom, hread]

theorem fill_of_bytes
    {byte : UInt8}
    {more : Bytes}
    (hopen : reader.exhausted = false)
    (hread : reader.source.readThrough (reader.makeRoom.size - reader.unread.length) =
      (.ok (byte :: more), source)) :
    reader.fill =
      (.ok true,
        { reader.makeRoom with source := source, unread := reader.unread ++ byte :: more }) := by
  rw [fill, hopen, if_neg Bool.false_ne_true]
  simp only [source_makeRoom, unread_makeRoom, hread]

theorem fillForSniffing_of_fill_error
    {error : IoError}
    (hfill : reader.fill = (.error error, next))
    (hshort : reader.unread.length < sniffLength) :
    reader.fillForSniffing = (.error error, next) := by
  rw [fillForSniffing, if_pos hshort]
  split <;> rename_i hagain <;> rw [hfill] at hagain <;> cases hagain
  rfl

theorem fillForSniffing_of_fill_false
    (hfill : reader.fill = (.ok false, next))
    (hshort : reader.unread.length < sniffLength) :
    reader.fillForSniffing = (.ok (), next) := by
  rw [fillForSniffing, if_pos hshort]
  split <;> rename_i hagain <;> rw [hfill] at hagain <;> cases hagain
  rfl

theorem fillForSniffing_of_fill_true
    (hfill : reader.fill = (.ok true, next))
    (hshort : reader.unread.length < sniffLength) :
    reader.fillForSniffing = next.fillForSniffing := by
  rw [fillForSniffing, if_pos hshort]
  split <;> rename_i hagain <;> rw [hfill] at hagain <;> cases hagain
  rfl

theorem seekPiece_of_cut
    {found : Piece × Bytes}
    (hcut : encoding.cutPiece? reader.unread searched = some found) :
    reader.seekPiece encoding searched = (.ok (some found), reader) := by
  rw [seekPiece, hcut]

theorem seekPiece_of_fill_error
    {error : IoError}
    (hfill : reader.fill = (.error error, next))
    (hcut : encoding.cutPiece? reader.unread searched = none) :
    reader.seekPiece encoding searched = (.error error, next) := by
  rw [seekPiece, hcut]
  simp only
  split <;> rename_i hagain <;> rw [hfill] at hagain <;> cases hagain
  rfl

theorem seekPiece_of_fill_true
    (hfill : reader.fill = (.ok true, next))
    (hcut : encoding.cutPiece? reader.unread searched = none) :
    reader.seekPiece encoding searched =
      next.seekPiece encoding (encoding.wholeUnits reader.unread.length) := by
  rw [seekPiece, hcut]
  simp only
  split <;> rename_i hagain <;> rw [hfill] at hagain <;> cases hagain
  rfl

/-- At the end of the source, what is unread is the last piece. -/
theorem seekPiece_of_fill_false
    (hfill : reader.fill = (.ok false, next))
    (hcut : encoding.cutPiece? reader.unread searched = none) :
    reader.seekPiece encoding searched =
      (.ok (if next.unread = [] then none else some (.unterminated next.unread, [])), next) := by
  rw [seekPiece, hcut]
  simp only
  split <;> rename_i hagain <;> rw [hfill] at hagain <;> cases hagain
  split
  · rename_i hempty
    rw [if_pos hempty]
  · rename_i hne
    rw [if_neg hne]

end OneStep

section Mended

variable {reader next : LineReader}
variable {error : IoError}

/-- The reader whose source never fails for good. -/
def mended (reader : LineReader) : LineReader :=
  { reader with source := reader.source.mended }

/-- The failures that a reader still meets. -/
def failuresAhead (reader : LineReader) : List IoError :=
  if reader.exhausted then [] else Source.failures reader.source.script

theorem sized_mended (hsized : reader.Sized) : reader.mended.Sized :=
  ⟨hsized.size_pos, hsized.unread_le⟩

theorem ahead_mended (reader : LineReader) :
    reader.mended.ahead =
      reader.unread ++ if reader.exhausted then [] else Source.delivered reader.source.script := by
  rw [← Source.upcoming_mend]
  rfl

theorem obstacle?_mended (reader : LineReader) : reader.mended.obstacle? = none := by
  rw [obstacle?]
  split
  · rfl
  · exact Source.obstacle?_mend _

theorem head?_failuresAhead (reader : LineReader) :
    reader.failuresAhead.head? = reader.obstacle? := by
  rw [failuresAhead, obstacle?]
  split
  · rfl
  · exact Source.head?_failures _

theorem failuresAhead_of_obstacle?_none
    (h : reader.obstacle? = none) :
    reader.failuresAhead = [] := by
  rw [← List.head?_eq_none_iff, head?_failuresAhead, h]

/-- A refill that does not fail is a refill of the mended reader, and uses up no failure. -/
theorem fill_mended
    {came : Bool}
    (hsized : reader.Sized)
    (h : reader.fill = (.ok came, next)) :
    reader.mended.fill = (.ok came, next.mended) ∧ next.failuresAhead = reader.failuresAhead := by
  have hfill := h
  simp only [fill, source_makeRoom, unread_makeRoom] at h
  split at h
  · rename_i hclosed
    cases h
    exact ⟨if_pos hclosed, rfl⟩
  · rename_i hexhausted
    have hopen : reader.exhausted = false := by simpa using hexhausted
    split at h
    · cases h
    · rename_i source hread
      cases h
      have hclear := (fill_false hsized hfill).2.2.2
      rw [failuresAhead_of_obstacle?_none hclear]
      exact ⟨fill_of_nothing hopen (Source.readThrough_mended hread), rfl⟩
    · rename_i byte more source hread
      cases h
      refine ⟨fill_of_bytes hopen (Source.readThrough_mended hread), ?_⟩
      have hkept := Source.failures_readThrough (List.cons_ne_nil _ _) hread
      rw [failuresAhead, failuresAhead, if_neg hexhausted, ← hkept]
      exact if_neg hexhausted

/-- A refill that fails leaves the mended reader at its place, and uses up the first failure. -/
theorem fill_mended_of_error
    (hsized : reader.Sized)
    (h : reader.fill = (.error error, next)) :
    reader.mended.SamePlace next.mended ∧
      reader.failuresAhead = error :: next.failuresAhead := by
  have hroom := room_makeRoom hsized
  simp only [fill, source_makeRoom, unread_makeRoom] at h
  split at h
  · cases h
  · rename_i hopen
    split at h
    · rename_i found source hread
      obtain ⟨hdelivered, hfailures⟩ := Source.delivered_readThrough_error hread
      cases h
      refine ⟨⟨⟨Nat.zero_lt_of_lt hroom, Nat.le_of_lt hroom⟩, ?_, ?_, rfl, rfl⟩, ?_⟩
      · rw [ahead_mended, ahead_mended, if_neg hopen, hdelivered]
        exact congrArg (reader.unread ++ ·) (if_neg hopen)
      · rw [obstacle?_mended, obstacle?_mended]
      · rw [failuresAhead, if_neg hopen, hfailures]
        exact congrArg (error :: ·) (if_neg hopen).symm
    · cases h
    · cases h

end Mended

section Encodings

variable {reader next : LineReader}
variable {error : IoError}

theorem fillForSniffing_mended
    (hsized : reader.Sized)
    (h : reader.fillForSniffing = (.ok (), next)) :
    reader.mended.fillForSniffing = (.ok (), next.mended) ∧
      next.failuresAhead = reader.failuresAhead := by
  fun_induction fillForSniffing reader with
  | case1 reader hshort found after hfill =>
      cases h
  | case2 reader hshort after hfill =>
      cases h
      obtain ⟨hmended, hfailures⟩ := fill_mended hsized hfill
      exact ⟨fillForSniffing_of_fill_false hmended hshort, hfailures⟩
  | case3 reader hshort after hfill ih =>
      obtain ⟨hmended, hfailures⟩ := fill_mended hsized hfill
      obtain ⟨hrest, hkept⟩ := ih (fill_true hsized hfill).1.sized h
      exact ⟨(fillForSniffing_of_fill_true hmended hshort).trans hrest, hkept.trans hfailures⟩
  | case4 reader hlong =>
      cases h
      refine ⟨?_, rfl⟩
      rw [fillForSniffing, if_neg (by exact hlong)]

theorem fillForSniffing_mended_of_error
    (hsized : reader.Sized)
    (h : reader.fillForSniffing = (.error error, next)) :
    reader.mended.SamePlace next.mended ∧
      reader.failuresAhead = error :: next.failuresAhead := by
  fun_induction fillForSniffing reader with
  | case1 reader hshort found after hfill =>
      cases h
      exact fill_mended_of_error hsized hfill
  | case2 reader hshort after hfill =>
      cases h
  | case3 reader hshort after hfill ih =>
      obtain ⟨hmended, hfailures⟩ := fill_mended hsized hfill
      obtain ⟨hrest, herror⟩ := ih (fill_true hsized hfill).1.sized h
      have hsame := (fill_true (sized_mended hsized) hmended).1
      exact ⟨hsame.trans hrest, hfailures.symm.trans herror⟩
  | case4 reader hlong =>
      cases h

theorem requireEncoding_mended
    {encoding : Encoding}
    {ready : LineReader}
    (hsized : reader.Sized)
    (h : reader.requireEncoding = (.ok encoding, ready)) :
    reader.mended.requireEncoding = (.ok encoding, ready.mended) ∧
      ready.failuresAhead = reader.failuresAhead := by
  simp only [requireEncoding] at h
  split at h
  · rename_i found hsettled
    cases h
    refine ⟨?_, rfl⟩
    have hkept : reader.mended.encoding = some encoding := hsettled
    rw [requireEncoding, hkept]
  · rename_i hunsettled
    split at h
    · cases h
    · rename_i filled hfill
      obtain ⟨hmended, hfailures⟩ := fillForSniffing_mended hsized hfill
      cases h
      refine ⟨?_, hfailures⟩
      have hkept : reader.mended.encoding = none := hunsettled
      rw [requireEncoding, hkept]
      simp only [hmended]
      rfl

theorem requireEncoding_mended_of_error
    (hsized : reader.Sized)
    (h : reader.requireEncoding = (.error error, next)) :
    reader.mended.SamePlace next.mended ∧
      reader.failuresAhead = error :: next.failuresAhead := by
  simp only [requireEncoding] at h
  split at h
  · cases h
  · split at h
    · rename_i found after hfill
      cases h
      exact fillForSniffing_mended_of_error hsized hfill
    · cases h

end Encodings

section Lines

variable {reader next : LineReader}
variable {encoding : Encoding}
variable {searched : Nat}
variable {error : IoError}

theorem seekPiece_mended
    {found : Option (Piece × Bytes)}
    (hsized : reader.Sized)
    (h : reader.seekPiece encoding searched = (.ok found, next)) :
    reader.mended.seekPiece encoding searched = (.ok found, next.mended) ∧
      next.failuresAhead = reader.failuresAhead ∧
      (found = none → reader.failuresAhead = []) := by
  fun_induction seekPiece reader encoding searched with
  | case1 reader searched cut hcut =>
      cases h
      exact ⟨seekPiece_of_cut hcut, rfl, fun hnone => by cases hnone⟩
  | case2 reader searched hcut failure after hfill =>
      cases h
  | case3 reader searched hcut after hfill ih =>
      obtain ⟨hmended, hfailures⟩ := fill_mended hsized hfill
      obtain ⟨hrest, hkept, hnothing⟩ := ih (fill_true hsized hfill).1.sized h
      rw [hfailures] at hkept hnothing
      exact ⟨(seekPiece_of_fill_true hmended hcut).trans hrest, hkept, hnothing⟩
  | case4 reader searched hcut after hfill hempty =>
      cases h
      obtain ⟨hmended, hfailures⟩ := fill_mended hsized hfill
      have hclear := (fill_false hsized hfill).2.2.2
      refine ⟨?_, hfailures, fun _ => failuresAhead_of_obstacle?_none hclear⟩
      have hnothing : next.mended.unread = [] := hempty
      rw [seekPiece_of_fill_false hmended hcut, if_pos hnothing]
  | case5 reader searched hcut after hfill hne =>
      cases h
      obtain ⟨hmended, hfailures⟩ := fill_mended hsized hfill
      refine ⟨?_, hfailures, fun hnone => by cases hnone⟩
      have hsomething : next.mended.unread ≠ [] := hne
      rw [seekPiece_of_fill_false hmended hcut, if_neg hsomething]
      rfl

theorem seekPiece_mended_of_error
    (hsized : reader.Sized)
    (h : reader.seekPiece encoding searched = (.error error, next)) :
    reader.mended.SamePlace next.mended ∧
      reader.failuresAhead = error :: next.failuresAhead := by
  fun_induction seekPiece reader encoding searched with
  | case1 reader searched found hcut =>
      cases h
  | case2 reader searched hcut found after hfill =>
      cases h
      exact fill_mended_of_error hsized hfill
  | case3 reader searched hcut after hfill ih =>
      obtain ⟨hmended, hfailures⟩ := fill_mended hsized hfill
      obtain ⟨hrest, herror⟩ := ih (fill_true hsized hfill).1.sized h
      have hsame := (fill_true (sized_mended hsized) hmended).1
      exact ⟨hsame.trans hrest, hfailures.symm.trans herror⟩
  | case4 reader searched hcut after hfill hempty =>
      cases h
  | case5 reader searched hcut after hfill hne =>
      cases h

end Lines

section Answers

variable {reader next : LineReader}
variable {error : IoError}

/-- A call has left the mended reader at its place, but for a byte order mark. -/
structure Stays (reader next : LineReader) : Prop where
  sized : next.Sized
  encodingAhead : next.mended.encodingAhead = reader.mended.encodingAhead
  piecesAhead : next.mended.piecesAhead = reader.mended.piecesAhead
  count : next.count = reader.count
  settled : ∀ encoding, reader.encoding = some encoding → next.encoding = some encoding

theorem SamePlace.stays
    (h : reader.mended.SamePlace next.mended) :
    reader.Stays next where
  sized := ⟨h.sized.size_pos, h.sized.unread_le⟩
  encodingAhead := by
    rw [LineReader.encodingAhead, LineReader.encodingAhead, h.encoding, h.ahead]
  piecesAhead := by
    rw [LineReader.piecesAhead, LineReader.piecesAhead, h.encoding, h.ahead]
  count := h.count
  settled := fun _ hsettled => h.encoding.trans hsettled

theorem Settles.stays
    {encoding : Encoding}
    {ready : LineReader}
    (hsettles : reader.mended.Settles encoding ready.mended)
    (hsame : ready.mended.SamePlace next.mended) :
    reader.Stays next := by
  have hsettled : next.encoding = some encoding := hsame.encoding.trans hsettles.settled
  have hkept : next.mended.encoding = some encoding := hsettled
  refine ⟨⟨hsame.sized.size_pos, hsame.sized.unread_le⟩, ?_, ?_, hsame.count.trans hsettles.count, ?_⟩
  · rw [LineReader.encodingAhead, hkept, hsettles.sniffed]
    rfl
  · rw [LineReader.piecesAhead, hkept, hsame.ahead]
    exact hsettles.pieces
  · intro found hfound
    have hsniffed := hsettles.sniffed
    have hbefore : reader.mended.encoding = some found := hfound
    rw [LineReader.encodingAhead, hbefore] at hsniffed
    rw [hsettled, hsniffed]
    rfl

/-- All that a call for a line can do. -/
inductive Answers (reader : LineReader) :
    Except LineError (Option (List Char)) × LineReader → Prop
  | failed
      {error : IoError}
      {next : LineReader}
      (hstays : reader.Stays next)
      (hfailures : reader.failuresAhead = error :: next.failuresAhead) :
      Answers reader (.error (.io error), next)
  | line
      {piece : Piece}
      {text : List Char}
      {next : LineReader}
      (hpasses : reader.mended.Passes piece next.mended)
      (hfailures : next.failuresAhead = reader.failuresAhead)
      (hdecode : reader.mended.encodingAhead.decodePiece reader.count piece = .ok text) :
      Answers reader (.ok (some text), next)
  | undecodable
      {piece : Piece}
      {fault : DecodeError}
      {next : LineReader}
      (hpasses : reader.mended.Passes piece next.mended)
      (hfailures : next.failuresAhead = reader.failuresAhead)
      (hdecode : reader.mended.encodingAhead.decodePiece reader.count piece = .error fault) :
      Answers reader (.error (.decode fault), next)
  | ended
      {next : LineReader}
      (hstays : reader.Stays next)
      (hpieces : reader.mended.piecesAhead = [])
      (hfailures : reader.failuresAhead = [])
      (hnext : next.failuresAhead = []) :
      Answers reader (.ok none, next)

theorem nextLine_answers
    (hsized : reader.Sized) :
    reader.Answers reader.nextLine := by
  cases hencoding : reader.requireEncoding with
  | mk told ready =>
      cases told with
      | error failure =>
          obtain ⟨hsame, hfailures⟩ := requireEncoding_mended_of_error hsized hencoding
          simp only [nextLine, hencoding]
          exact .failed hsame.stays hfailures
      | ok encoding =>
          obtain ⟨hmended, hready⟩ := requireEncoding_mended hsized hencoding
          have hsettles := requireEncoding_ok (sized_mended hsized) hmended
          have hsized' : ready.Sized := ⟨hsettles.sized.size_pos, hsettles.sized.unread_le⟩
          cases hseek : ready.seekPiece encoding 0 with
          | mk sought next =>
              cases sought with
              | error failure =>
                  obtain ⟨hsame, hfailures⟩ := seekPiece_mended_of_error hsized' hseek
                  simp only [nextLine, hencoding, hseek]
                  exact .failed (hsettles.stays hsame) (hready.symm.trans hfailures)
              | ok found =>
                  obtain ⟨hsought, hnext, hend⟩ := seekPiece_mended hsized' hseek
                  rw [hready] at hnext hend
                  cases found with
                  | none =>
                      obtain ⟨hsame, hpieces⟩ :=
                        seekPiece_none hsettles.sized (searchedTo_zero _ _) hsought
                      have hnothing := hend rfl
                      simp only [nextLine, hencoding, hseek]
                      exact .ended (hsettles.stays hsame) (hsettles.pieces.symm.trans hpieces)
                        hnothing (hnext.trans hnothing)
                  | some found =>
                      obtain ⟨piece, rest⟩ := found
                      obtain ⟨hpasses, hcount⟩ := passes_of_seekPiece hsettles hsought
                      have hnumber : next.count = reader.count := hcount
                      simp only [nextLine, hencoding, hseek, hnumber]
                      cases hdecode : encoding.decodePiece reader.count piece with
                      | ok text =>
                          rw [hsettles.sniffed] at hdecode
                          exact .line hpasses hnext hdecode
                      | error fault =>
                          rw [hsettles.sniffed] at hdecode
                          exact .undecodable hpasses hnext hdecode

end Answers

end LineReader

/-- What pieces in a row are read as, with the numbering that the pieces before them left: each of
them as its text, or as the first fault in it. -/
def Encoding.readings (encoding : Encoding) :
    LineCount → List Piece → List (Except DecodeError (List Char))
  | _, [] => []
  | count, piece :: rest =>
      let count := count.advance piece
      let reading :=
        match encoding.decode piece.body with
        | ⟨text, none⟩ => .ok text
        | ⟨_, some fault⟩ => .error ⟨encoding, count.number, fault⟩
      reading :: encoding.readings count rest

/-- A reader hands on each piece as what it is read as. -/
theorem Encoding.readings_cons
    (encoding : Encoding)
    (count : LineCount)
    (piece : Piece)
    (rest : List Piece) :
    encoding.readings count (piece :: rest) =
      encoding.decodePiece count piece :: encoding.readings (count.advance piece) rest := by
  rcases hdecoded : encoding.decode piece.body with ⟨text, _ | fault⟩
  · simp only [readings, decodePiece, decodeLine_eq, hdecoded]
  · simp only [readings, decodePiece, decodeLine_eq, hdecoded]

/-- One call for a line. -/
structure LineCall where
  /-- The reader before the call. -/
  before : LineReader
  /-- What the call came to. -/
  answer : Except LineError (Option (List Char))
  /-- The reader after the call. -/
  after : LineReader

namespace LineCall

/-- What a call hands on of the document: a line, or the error of a piece that is not text. -/
def reading? (call : LineCall) : Option (Except DecodeError (List Char)) :=
  match call.answer with
  | .ok (some text) => some (.ok text)
  | .error (.decode fault) => some (.error fault)
  | _ => none

/-- The failure of the source that a call hands on. -/
def failure? (call : LineCall) : Option IoError :=
  match call.answer with
  | .error (.io error) => some error
  | _ => none

end LineCall

namespace LineReader

open Encoding Detection

section Calls

variable {reader : LineReader}

/-- The given number of calls for a line, one after the other. -/
def calls : LineReader → Nat → List LineCall
  | _, 0 => []
  | reader, count + 1 =>
      ⟨reader, reader.nextLine.1, reader.nextLine.2⟩ :: calls reader.nextLine.2 count

theorem sized_of_passes
    {piece : Piece}
    {next : LineReader}
    (hpasses : reader.mended.Passes piece next.mended) :
    next.Sized :=
  ⟨hpasses.sized.size_pos, hpasses.sized.unread_le⟩

/-- What lies ahead of a reader is read piece by piece. -/
theorem readings_of_passes
    {piece : Piece}
    {next : LineReader}
    (hpasses : reader.mended.Passes piece next.mended) :
    reader.mended.encodingAhead.readings reader.count reader.mended.piecesAhead =
      reader.mended.encodingAhead.decodePiece reader.count piece ::
        next.mended.encodingAhead.readings next.count next.mended.piecesAhead := by
  have hcount : next.count = reader.count.advance piece := hpasses.count
  rw [hpasses.pieces, Encoding.readings_cons, hpasses.encodingAhead, hcount]

/-- No call spoils the buffer. -/
theorem sized_nextLine
    (hsized : reader.Sized) :
    reader.nextLine.2.Sized := by
  have hanswers := nextLine_answers hsized
  generalize reader.nextLine = outcome at hanswers
  cases hanswers with
  | failed hstays _ => exact hstays.sized
  | line hpasses _ _ => exact sized_of_passes hpasses
  | undecodable hpasses _ _ => exact sized_of_passes hpasses
  | ended hstays _ _ _ => exact hstays.sized

/-- Each of the calls does what a call can do. -/
theorem answers_of_mem_calls
    (hsized : reader.Sized)
    {count : Nat}
    {call : LineCall}
    (hmem : call ∈ reader.calls count) :
    call.before.Answers (call.answer, call.after) := by
  induction count generalizing reader with
  | zero =>
      cases hmem
  | succ count ih =>
      rcases List.mem_cons.1 hmem with rfl | hmem
      · exact nextLine_answers hsized
      · exact ih (sized_nextLine hsized) hmem

/-- At the end of the document every call comes to the end again. -/
theorem calls_atEnd
    (hsized : reader.Sized)
    (hpieces : reader.mended.piecesAhead = [])
    (hfailures : reader.failuresAhead = [])
    (count : Nat) :
    ∀ call ∈ reader.calls count, call.answer = .ok none := by
  induction count generalizing reader with
  | zero =>
      intro call hmem
      cases hmem
  | succ count ih =>
      rw [calls]
      have hanswers := nextLine_answers hsized
      generalize reader.nextLine = outcome at hanswers
      cases hanswers with
      | failed _ hsome =>
          rw [hfailures] at hsome
          cases hsome
      | line hpasses _ _ =>
          cases hpieces.symm.trans hpasses.pieces
      | undecodable hpasses _ _ =>
          cases hpieces.symm.trans hpasses.pieces
      | ended hstays _ _ hnext =>
          intro call hmem
          rcases List.mem_cons.1 hmem with rfl | hmem
          · rfl
          · exact ih hstays.sized (hstays.piecesAhead.trans hpieces) hnext call hmem

/-- The calls on a reader hand on every piece ahead and every failure, once and in order, and then
come to the end for ever. -/
theorem calls_answers
    (hsized : reader.Sized)
    {needed : Nat}
    (hneeded : reader.mended.piecesAhead.length + reader.failuresAhead.length = needed) :
    (reader.calls needed).filterMap LineCall.reading? =
        reader.mended.encodingAhead.readings reader.count reader.mended.piecesAhead ∧
      (reader.calls needed).filterMap LineCall.failure? = reader.failuresAhead ∧
      (∀ call ∈ reader.calls needed, call.answer ≠ .ok none) ∧
      ∀ more, ∀ call ∈ (reader.calls (needed + more)).drop needed, call.answer = .ok none := by
  induction needed generalizing reader with
  | zero =>
      have hpieces : reader.mended.piecesAhead = [] := List.eq_nil_of_length_eq_zero (by omega)
      have hfailures : reader.failuresAhead = [] := List.eq_nil_of_length_eq_zero (by omega)
      rw [hpieces, hfailures]
      refine ⟨rfl, rfl, ?_, ?_⟩
      · intro call hmem
        cases hmem
      · intro more
        rw [Nat.zero_add, List.drop_zero]
        exact calls_atEnd hsized hpieces hfailures more
  | succ needed ih =>
      simp only [Nat.add_right_comm needed 1, calls, List.drop_succ_cons]
      have hanswers := nextLine_answers hsized
      generalize reader.nextLine = outcome at hanswers
      cases hanswers with
      | failed hstays hfailures =>
          rw [hfailures, List.length_cons, ← hstays.piecesAhead] at hneeded
          obtain ⟨hreadings, hothers, hsome, hend⟩ := ih hstays.sized (by omega)
          rw [hstays.encodingAhead, hstays.piecesAhead, hstays.count] at hreadings
          refine ⟨hreadings, ?_, List.forall_mem_cons.2 ⟨nofun, hsome⟩, hend⟩
          rw [hfailures, ← hothers]
          rfl
      | line hpasses hfailures hdecode =>
          have hsized' := sized_of_passes hpasses
          rw [hpasses.pieces, List.length_cons, ← hfailures] at hneeded
          obtain ⟨hreadings, hothers, hsome, hend⟩ := ih hsized' (by omega)
          refine ⟨?_, hothers.trans hfailures, List.forall_mem_cons.2 ⟨nofun, hsome⟩, hend⟩
          rw [readings_of_passes hpasses, hdecode, ← hreadings]
          rfl
      | undecodable hpasses hfailures hdecode =>
          have hsized' := sized_of_passes hpasses
          rw [hpasses.pieces, List.length_cons, ← hfailures] at hneeded
          obtain ⟨hreadings, hothers, hsome, hend⟩ := ih hsized' (by omega)
          refine ⟨?_, hothers.trans hfailures, List.forall_mem_cons.2 ⟨nofun, hsome⟩, hend⟩
          rw [readings_of_passes hpasses, hdecode, ← hreadings]
          rfl
      | ended hstays hpieces hfailures hnext =>
          rw [hpieces, hfailures] at hneeded
          cases hneeded

/-- A call that hands on a failure changes neither the numbering nor a settled encoding. -/
theorem failed_call_keeps
    (hsized : reader.Sized)
    {count : Nat}
    {call : LineCall}
    (hmem : call ∈ reader.calls count)
    (hfailed : call.failure?.isSome = true) :
    call.after.count = call.before.count ∧
      ∀ encoding, call.before.encoding = some encoding → call.after.encoding = some encoding := by
  have hanswers := answers_of_mem_calls hsized hmem
  rcases call with ⟨before, answer, after⟩
  cases hanswers with
  | failed hstays _ => exact ⟨hstays.count, hstays.settled⟩
  | line _ _ _ => cases hfailed
  | undecodable _ _ _ => cases hfailed
  | ended _ _ _ _ => cases hfailed

/-- **A reader loses, repeats and reorders nothing.**  Of a source that delivers a document with
failures in between, the calls for lines hand on every piece of the document, as its text or as the
error of a piece that is not text, and every failure, each of them once and in order; from then on
every call comes to the end.  A call that hands on a failure changes neither the numbering nor a
settled encoding. -/
theorem calls_ofSource
    (source : Source)
    (capacity : Nat) :
    let document := Source.delivered source.script
    let failures := Source.failures source.script
    let pieces := documentPieces (sniff document) document
    let reader := ofSource source capacity
    let needed := pieces.length + failures.length
    (reader.calls needed).filterMap LineCall.reading? = (sniff document).readings {} pieces ∧
      (reader.calls needed).filterMap LineCall.failure? = failures ∧
      (∀ call ∈ reader.calls needed, call.answer ≠ .ok none) ∧
      (∀ more, ∀ call ∈ (reader.calls (needed + more)).drop needed, call.answer = .ok none) ∧
      ∀ count, ∀ call ∈ reader.calls count, call.failure?.isSome = true →
        call.after.count = call.before.count ∧
          ∀ encoding, call.before.encoding = some encoding →
            call.after.encoding = some encoding := by
  intro document failures pieces reader needed
  have hsized : reader.Sized := sized_ofSource source capacity
  have hahead : reader.mended.ahead = document := ahead_mended reader
  have hencoding : reader.mended.encodingAhead = sniff document := by
    rw [← hahead]
    rfl
  have hpieces : reader.mended.piecesAhead = pieces := by
    simp only [pieces, ← hahead]
    rfl
  have hneeded : reader.mended.piecesAhead.length + reader.failuresAhead.length = needed := by
    rw [hpieces]
    rfl
  obtain ⟨hreadings, hfailures, hsome, hend⟩ := calls_answers hsized hneeded
  rw [hencoding, hpieces] at hreadings
  refine ⟨hreadings, hfailures, hsome, hend, ?_⟩
  intro count call hmem hfailed
  exact failed_call_keeps hsized hmem hfailed

end Calls

end LineReader

end XmlPreamble
