import XmlPreamble.Proofs.FeedingInParts
import XmlPreamble.Proofs.LineNumbers

/-!
# No call is made that is not needed

A detection makes calls on its source for as long as nothing that has arrived decides.  A detector
that was fed the bytes of the calls so far tells when that is: before every call it is undecided,
and behind a call that delivered bytes another one follows just if it still is.  The end of the
input and a failure that is no interruption are the last things a source is asked for.

A run is followed call by call.  As long as the source has not ended, the bytes in the buffer of the
reader, its encoding and its numbering make up a detector that has come as far as the one that was
fed everything, so a reader that finds nothing to hand on has an undecided detector beside it.

Main statements:

- `NeededReads`: the series of calls that go on for as long as nothing decides;
- `scanLines_reads`: a run makes the calls that it needs, and no other;
- `detect_reads_no_further`: where the calls of a detection end.
-/

namespace XmlPreamble
namespace Source

section Replaying

/-- The answers of a source to calls with room for the given numbers of bytes, in order, and the
source behind the last of them. -/
def readAll (source : Source) : List Nat → List (Except IoError Bytes) × Source
  | [] => ([], source)
  | offered :: rooms =>
      let first := source.read offered
      let others := first.2.readAll rooms
      (first.1 :: others.1, others.2)

/-- The bytes that calls returned, one behind the other. -/
def returned : List (Except IoError Bytes) → Bytes
  | [] => []
  | .ok data :: answers => data ++ returned answers
  | .error _ :: answers => returned answers

/-- A call is recorded with the room that was offered. -/
theorem offered_read
    (source : Source)
    (offered : Nat) :
    (source.read offered).2.calls.map ReadCall.offered =
      offered :: source.calls.map ReadCall.offered := by
  rcases source with ⟨_ | ⟨_ | _, script⟩, calls⟩ <;> rfl

/-- The record of the calls tells the rooms that were offered. -/
theorem offered_readAll
    (source : Source)
    (rooms : List Nat) :
    (source.readAll rooms).2.calls.reverse.map ReadCall.offered =
      source.calls.reverse.map ReadCall.offered ++ rooms := by
  induction rooms generalizing source with
  | nil => simp [readAll]
  | cons offered rooms ih =>
      rw [readAll, ih, List.map_reverse, offered_read, List.reverse_cons, List.map_reverse,
        List.append_assoc, List.singleton_append]

end Replaying

end Source

namespace Detection

open Encoding

section NeededReads

/-- Whether the bytes that have been taken in leave the answer open. -/
def Undecided (taken : Bytes) : Prop :=
  (Detector.fresh.feed taken).1.isDecided = false

/-- From one source to another by calls that are made one after the other by somebody who has taken
in the given bytes: each of them while the bytes so far leave the answer open, and the last of them
when they do not, or at the end of the input, or when the source fails. -/
inductive NeededReads : Bytes → Source → Source → Prop
  | decided
      {taken : Bytes}
      {source : Source}
      (hdecided : ¬ Undecided taken) :
      NeededReads taken source source
  | ended
      {taken : Bytes}
      {source final : Source}
      {offered : Nat}
      (hundecided : Undecided taken)
      (hread : source.read offered = (.ok [], final)) :
      NeededReads taken source final
  | failed
      {taken : Bytes}
      {source final : Source}
      {offered : Nat}
      {error : IoError}
      (hundecided : Undecided taken)
      (hread : source.read offered = (.error error, final))
      (hkind : error.kind ≠ .interrupted) :
      NeededReads taken source final
  | interrupted
      {taken : Bytes}
      {source next final : Source}
      {offered : Nat}
      {error : IoError}
      (hundecided : Undecided taken)
      (hread : source.read offered = (.error error, next))
      (hkind : error.kind = .interrupted)
      (hmore : NeededReads taken next final) :
      NeededReads taken source final
  | arrived
      {taken : Bytes}
      {source next final : Source}
      {offered : Nat}
      {data : Bytes}
      (hundecided : Undecided taken)
      (hread : source.read offered = (.ok data, next))
      (hne : data ≠ [])
      (hmore : NeededReads (taken ++ data) next final) :
      NeededReads taken source final

variable {taken : Bytes}
variable {source next final : Source}
variable {offered : Nat}

/-- A repeated call is needed if the last repetition of it is. -/
theorem NeededReads.of_readThrough
    {answer : Except IoError Bytes}
    (hundecided : Undecided taken)
    (h : source.readThrough offered = (answer, next))
    (hlast : ∀ last : Source, last.read offered = (answer, next) →
      (∀ error, answer = .error error → error.kind ≠ .interrupted) →
        NeededReads taken last final) :
    NeededReads taken source final := by
  fun_induction Source.readThrough source offered with
  | case1 source error after hread hkind ih => exact .interrupted hundecided hread hkind (ih h)
  | case2 source error after hread hkind =>
      cases h
      refine hlast source hread ?_
      rintro _ ⟨⟩
      exact hkind
  | case3 source found after hread =>
      cases h
      refine hlast source hread ?_
      intro error hanswer
      cases hanswer

end NeededReads

section InHand

variable {taken : Bytes}
variable {reader : LineReader}
variable {state : Scan.State}

/-- The detector that was fed `seen` bytes and holds those of them that are in the buffer of a
reader. -/
def inHand (seen : Nat) (reader : LineReader) (state : Scan.State) : Detector :=
  { buffer := reader.unread
    encoding := reader.encoding
    state := state
    count := reader.count
    bytesSeen := seen }

theorem open_inHand
    (seen : Nat)
    (reader : LineReader)
    (state : Scan.State) :
    (inHand seen reader state).Open :=
  .of_searched_zero rfl rfl

/-- A reader that has taken in the given bytes is as far as a detector that was fed them. -/
def AsFarAs (taken : Bytes) (reader : LineReader) (state : Scan.State) : Prop :=
  (Detector.fresh.receive taken).advance false =
    (inHand taken.length reader state).advance false

theorem AsFarAs.isDecided
    (h : AsFarAs taken reader state) :
    (Detector.fresh.feed taken).1.isDecided =
      ((inHand taken.length reader state).advance false).1.isDecided := by
  rw [Detector.feed_of_undecided rfl, h]

/-- Bytes that arrive while the answer is open reach a reader and a detector alike. -/
theorem AsFarAs.receive
    {next : LineReader}
    {data : Bytes}
    (h : AsFarAs taken reader state)
    (hundecided : Undecided taken)
    (hunread : next.unread = reader.unread ++ data)
    (hencoding : next.encoding = reader.encoding)
    (hcount : next.count = reader.count) :
    AsFarAs (taken ++ data) next state := by
  have hopen := Detector.open_fresh.receive taken
  have hheld : inHand (taken ++ data).length next state =
      (inHand taken.length reader state).receive data := by
    rw [inHand, hunread, hencoding, hcount, List.length_append]
    rfl
  rw [AsFarAs, ← Detector.receive_receive, hheld]
  have hfed : ((Detector.fresh.receive taken).advance false).1.isDecided = false := by
    rw [← Detector.feed_of_undecided rfl]
    exact hundecided
  have hkept : ((inHand taken.length reader state).advance false).1.isDecided = false := by
    rw [← h]
    exact hfed
  rcases Detector.advance_receive hopen data with ⟨hdecided, -⟩ | ⟨-, hfresh⟩
  · rw [hfed] at hdecided
    cases hdecided
  · rcases Detector.advance_receive (open_inHand taken.length reader state) data with
      ⟨hdecided, -⟩ | ⟨-, hhand⟩
    · rw [hkept] at hdecided
      cases hdecided
    · rw [hfresh, hhand, h]

/-- A reader that cannot tell the encoding leaves the answer open. -/
theorem AsFarAs.undecided_of_short
    (h : AsFarAs taken reader state)
    (hunsettled : reader.encoding = none)
    (hshort : reader.unread.length < sniffLength) :
    Undecided taken := by
  rw [Undecided, h.isDecided, Detector.advance_of_short hunsettled hshort]
  rfl

/-- A reader without a complete piece in its buffer leaves the answer open. -/
theorem AsFarAs.undecided_of_cutPiece?
    {encoding : Encoding}
    (h : AsFarAs taken reader state)
    (hsettled : reader.encoding = some encoding)
    (hcut : encoding.cutPiece? reader.unread 0 = none) :
    Undecided taken := by
  have hnone : (inHand taken.length reader state).nextPiece? encoding false = none := by
    rw [Detector.nextPiece?_of_going]
    exact hcut
  rw [Undecided, h.isDecided, Detector.advance_of_settled hsettled, Detector.scan_of_none hnone]
  rfl

/-- A reader that settles the encoding when it can be told stays as far as it was. -/
theorem AsFarAs.settleEncoding
    (h : AsFarAs taken reader state)
    (hunsettled : reader.encoding = none)
    (hlong : sniffLength ≤ reader.unread.length) :
    AsFarAs taken reader.settleEncoding state := by
  have hsettled : (inHand taken.length reader.settleEncoding state).encoding =
      some (sniff reader.unread) := rfl
  rw [AsFarAs, h, Detector.advance_of_sniffed hunsettled hlong,
    Detector.advance_of_settled hsettled]
  rfl

/-- What a complete piece in the buffer of a reader does to the detector beside it. -/
theorem AsFarAs.advance_of_cutPiece?
    {encoding : Encoding}
    {piece : Piece}
    {rest : Bytes}
    (hsettled : reader.encoding = some encoding)
    (hcut : encoding.cutPiece? reader.unread 0 = some (piece, rest)) :
    (inHand taken.length reader state).advance false =
      match encoding.decodePiece reader.count piece with
      | .error error => (inHand taken.length (reader.pass encoding piece rest) state).giveUp error
      | .ok line =>
          let looked :=
            inHand taken.length (reader.pass encoding piece rest) (state.classify line).2
          if (state.classify line).1.isFinal then
            looked.conclude (state.classify line).1
          else
            looked.advance false := by
  have hsome :
      (inHand taken.length reader state).nextPiece? encoding false = some (piece, rest) := by
    rw [Detector.nextPiece?_of_going]
    exact hcut
  have hpass : (inHand taken.length reader state).pass encoding piece rest =
      inHand taken.length (reader.pass encoding piece rest) state := by
    simp only [Detector.pass, inHand, LineReader.pass, Nat.zero_sub]
  have hlater : ∀ after,
      (inHand taken.length (reader.pass encoding piece rest) after).advance false =
        (inHand taken.length (reader.pass encoding piece rest) after).scan encoding false :=
    fun after => Detector.advance_of_settled hsettled
  rw [Detector.advance_of_settled hsettled, Detector.scan_of_some hsome, hpass]
  simp only [hlater]
  rfl

end InHand

section Runs

variable {start : Source}
variable {taken : Bytes}
variable {reader next : LineReader}
variable {state : Scan.State}
variable {encoding : Encoding}

/-- A run over a source that has not come to its end: it has made none but needed calls so far, and
its reader is as far as a detector that was fed what they delivered. -/
structure UnderWay
    (start : Source) (taken : Bytes) (reader : LineReader) (state : Scan.State) : Prop where
  more : reader.exhausted = false
  reads : ∀ final, NeededReads taken reader.source final → NeededReads [] start final
  asFar : AsFarAs taken reader state

/-- A run over a source that has come to its end, by none but needed calls. -/
structure AtEnd (start : Source) (reader : LineReader) : Prop where
  exhausted : reader.exhausted = true
  reads : NeededReads [] start reader.source

/-- A run between two lines. -/
def Reading (start : Source) (reader : LineReader) (state : Scan.State) : Prop :=
  AtEnd start reader ∨ ∃ taken, UnderWay start taken reader state

/-- A run that has decided needs no further call. -/
theorem UnderWay.reads_of_decided
    (h : UnderWay start taken reader state)
    (hdecided : ((inHand taken.length reader state).advance false).1.isDecided = true) :
    NeededReads [] start reader.source := by
  refine h.reads reader.source (.decided ?_)
  rw [Undecided, h.asFar.isDecided, hdecided]
  decide

section Filling

theorem UnderWay.fill_true
    (h : UnderWay start taken reader state)
    (hundecided : Undecided taken)
    (hfill : reader.fill = (.ok true, next)) :
    next.encoding = reader.encoding ∧
      ∃ data, next.unread = reader.unread ++ data ∧ UnderWay start (taken ++ data) next state := by
  simp only [LineReader.fill, h.more, Bool.false_eq_true, if_false] at hfill
  split at hfill
  · cases hfill
  · cases hfill
  · rename_i byte others source hread
    cases hfill
    refine ⟨rfl, byte :: others, rfl, h.more, ?_, h.asFar.receive hundecided rfl rfl rfl⟩
    intro final hmore
    refine h.reads final (.of_readThrough hundecided hread ?_)
    intro last hlast _
    exact .arrived hundecided hlast (List.cons_ne_nil _ _) hmore

theorem UnderWay.fill_false
    (h : UnderWay start taken reader state)
    (hundecided : Undecided taken)
    (hfill : reader.fill = (.ok false, next)) :
    AtEnd start next := by
  simp only [LineReader.fill, h.more, Bool.false_eq_true, if_false] at hfill
  split at hfill
  · cases hfill
  · rename_i source hread
    cases hfill
    refine ⟨rfl, h.reads source (.of_readThrough hundecided hread ?_)⟩
    intro last hlast _
    exact .ended hundecided hlast
  · cases hfill

theorem UnderWay.fill_error
    {error : IoError}
    (h : UnderWay start taken reader state)
    (hundecided : Undecided taken)
    (hfill : reader.fill = (.error error, next)) :
    NeededReads [] start next.source := by
  simp only [LineReader.fill, h.more, Bool.false_eq_true, if_false] at hfill
  split at hfill
  · rename_i failure source hread
    cases hfill
    refine h.reads source (.of_readThrough hundecided hread ?_)
    intro last hlast hkind
    exact .failed hundecided hlast (hkind error rfl)
  · cases hfill
  · cases hfill

/-- At the end of the source nothing is asked of it. -/
theorem AtEnd.fill
    (h : AtEnd start reader) :
    reader.fill = (.ok false, reader) := by
  rw [LineReader.fill, if_pos h.exhausted]

end Filling

section Encodings

/-- How the search for the encoding leaves a run. -/
inductive Prepared (start : Source) (state : Scan.State) :
    Except IoError Encoding × LineReader → Prop
  | failed
      {error : IoError}
      {next : LineReader}
      (hreads : NeededReads [] start next.source) :
      Prepared start state (.error error, next)
  | atEnd
      {encoding : Encoding}
      {ready : LineReader}
      (hend : AtEnd start ready) :
      Prepared start state (.ok encoding, ready)
  | underWay
      {taken : Bytes}
      {encoding : Encoding}
      {ready : LineReader}
      (hunder : UnderWay start taken ready state)
      (hsettled : ready.encoding = some encoding) :
      Prepared start state (.ok encoding, ready)

theorem AtEnd.fillForSniffing
    (h : AtEnd start reader) :
    reader.fillForSniffing = (.ok (), reader) := by
  by_cases hshort : reader.unread.length < sniffLength
  · exact LineReader.fillForSniffing_of_fill_false h.fill hshort
  · rw [LineReader.fillForSniffing, if_neg hshort]

/-- Bytes are asked for until the encoding can be told, and no longer. -/
theorem UnderWay.fillForSniffing
    (h : UnderWay start taken reader state)
    (hunsettled : reader.encoding = none) :
    match reader.fillForSniffing with
    | (.error _, next) => NeededReads [] start next.source
    | (.ok _, next) => AtEnd start next ∨ ∃ taken, UnderWay start taken next state ∧
        next.encoding = none ∧ sniffLength ≤ next.unread.length := by
  fun_induction LineReader.fillForSniffing reader generalizing taken with
  | case1 reader hshort error after hfill =>
      exact h.fill_error (h.asFar.undecided_of_short hunsettled hshort) hfill
  | case2 reader hshort after hfill =>
      exact Or.inl (h.fill_false (h.asFar.undecided_of_short hunsettled hshort) hfill)
  | case3 reader hshort after hfill ih =>
      obtain ⟨hkept, data, -, hunder⟩ :=
        h.fill_true (h.asFar.undecided_of_short hunsettled hshort) hfill
      exact ih hunder (hkept.trans hunsettled)
  | case4 reader hlong =>
      exact Or.inr ⟨taken, h, hunsettled, Nat.le_of_not_lt hlong⟩

theorem AtEnd.requireEncoding
    (h : AtEnd start reader) :
    Prepared start state reader.requireEncoding := by
  rw [LineReader.requireEncoding]
  split
  · exact .atEnd h
  · rw [h.fillForSniffing]
    exact .atEnd ⟨h.exhausted, h.reads⟩

theorem UnderWay.requireEncoding
    (h : UnderWay start taken reader state) :
    Prepared start state reader.requireEncoding := by
  rw [LineReader.requireEncoding]
  split
  · rename_i encoding hsettled
    exact .underWay h hsettled
  · rename_i hunsettled
    have hfilled := h.fillForSniffing hunsettled
    generalize reader.fillForSniffing = outcome at hfilled
    rcases outcome with ⟨_ | _, next⟩
    · exact .failed hfilled
    · rcases hfilled with hend | ⟨taken, hunder, hnone, hlong⟩
      · exact .atEnd ⟨hend.exhausted, hend.reads⟩
      · have hready : UnderWay start taken next.settleEncoding state :=
          ⟨hunder.more, hunder.reads, hunder.asFar.settleEncoding hnone hlong⟩
        exact .underWay hready rfl

theorem Reading.requireEncoding
    (h : Reading start reader state) :
    Prepared start state reader.requireEncoding := by
  rcases h with hend | ⟨taken, hunder⟩
  · exact hend.requireEncoding
  · exact hunder.requireEncoding

end Encodings

section Lines

/-- How the search for the end of a line leaves a run. -/
inductive Sought (start : Source) (state : Scan.State) (encoding : Encoding) :
    Except IoError (Option (Piece × Bytes)) × LineReader → Prop
  | failed
      {error : IoError}
      {next : LineReader}
      (hreads : NeededReads [] start next.source) :
      Sought start state encoding (.error error, next)
  | atEnd
      {found : Option (Piece × Bytes)}
      {next : LineReader}
      (hend : AtEnd start next) :
      Sought start state encoding (.ok found, next)
  | underWay
      {taken : Bytes}
      {piece : Piece}
      {rest : Bytes}
      {next : LineReader}
      (hunder : UnderWay start taken next state)
      (hsettled : next.encoding = some encoding)
      (hcut : encoding.cutPiece? next.unread 0 = some (piece, rest)) :
      Sought start state encoding (.ok (some (piece, rest)), next)

theorem AtEnd.seekPiece
    (h : AtEnd start reader)
    (searched : Nat) :
    Sought start state encoding (reader.seekPiece encoding searched) := by
  cases hcut : encoding.cutPiece? reader.unread searched with
  | none =>
      rw [LineReader.seekPiece_of_fill_false h.fill hcut]
      exact .atEnd h
  | some found =>
      rw [LineReader.seekPiece_of_cut hcut]
      exact .atEnd h

/-- A run whose reader has searched its buffer in vain needs another call. -/
theorem UnderWay.undecided_of_search
    {searched : Nat}
    (h : UnderWay start taken reader state)
    (hsettled : reader.encoding = some encoding)
    (hsearched : encoding.SearchedTo reader.unread searched)
    (hcut : encoding.cutPiece? reader.unread searched = none) :
    Undecided taken := by
  rw [hsearched.cutPiece?_eq] at hcut
  exact h.asFar.undecided_of_cutPiece? hsettled hcut

/-- Bytes are asked for until a piece is complete, and no longer. -/
theorem UnderWay.seekPiece
    {searched : Nat}
    (h : UnderWay start taken reader state)
    (hsettled : reader.encoding = some encoding)
    (hsearched : encoding.SearchedTo reader.unread searched) :
    Sought start state encoding (reader.seekPiece encoding searched) := by
  fun_induction LineReader.seekPiece reader encoding searched generalizing taken with
  | case1 reader searched found hcut =>
      rw [hsearched.cutPiece?_eq] at hcut
      exact .underWay h hsettled hcut
  | case2 reader searched hcut error after hfill =>
      have hundecided := h.undecided_of_search hsettled hsearched hcut
      exact .failed (h.fill_error hundecided hfill)
  | case3 reader searched hcut after hfill ih =>
      have hundecided := h.undecided_of_search hsettled hsearched hcut
      obtain ⟨hkept, data, hunread, hunder⟩ := h.fill_true hundecided hfill
      have hextend := hsearched.extend hcut data
      rw [← hunread] at hextend
      exact ih hunder (hkept.trans hsettled) hextend
  | case4 reader searched hcut after hfill hempty =>
      have hundecided := h.undecided_of_search hsettled hsearched hcut
      exact .atEnd (h.fill_false hundecided hfill)
  | case5 reader searched hcut after hfill hne =>
      have hundecided := h.undecided_of_search hsettled hsearched hcut
      exact .atEnd (h.fill_false hundecided hfill)

theorem Prepared.seekPiece
    {ready : LineReader}
    (h : Prepared start state (.ok encoding, ready)) :
    Sought start state encoding (ready.seekPiece encoding 0) := by
  cases h with
  | atEnd hend => exact hend.seekPiece 0
  | underWay hunder hsettled =>
      exact hunder.seekPiece hsettled (searchedTo_zero encoding ready.unread)

/-- How the call for a line leaves a run. -/
inductive Answered (start : Source) (state : Scan.State) :
    Except LineError (Option (List Char)) × LineReader → Prop
  | concluded
      {answer : Except LineError (Option (List Char))}
      {next : LineReader}
      (hlast : ∀ line, answer = .ok (some line) → (state.classify line).1.isFinal = true)
      (hreads : NeededReads [] start next.source) :
      Answered start state (answer, next)
  | atEnd
      {answer : Except LineError (Option (List Char))}
      {next : LineReader}
      (hend : AtEnd start next) :
      Answered start state (answer, next)
  | underWay
      {taken : Bytes}
      {line : List Char}
      {next : LineReader}
      (hgoing : (state.classify line).1.isFinal = false)
      (hunder : UnderWay start taken next (state.classify line).2) :
      Answered start state (.ok (some line), next)

theorem Answered.of_error
    {error : LineError}
    (hreads : NeededReads [] start next.source) :
    Answered start state (.error error, next) := by
  refine .concluded ?_ hreads
  intro line hanswer
  cases hanswer

/-- A complete line either decides, so that no call is needed any more, or leaves a run as far as a
detector that has looked at it. -/
theorem UnderWay.answered
    {piece : Piece}
    {rest : Bytes}
    (h : UnderWay start taken reader state)
    (hsettled : reader.encoding = some encoding)
    (hcut : encoding.cutPiece? reader.unread 0 = some (piece, rest)) :
    Answered start state
      (match encoding.decodePiece reader.count piece with
        | .ok text => (.ok (some text), reader.pass encoding piece rest)
        | .error error => (.error (.decode error), reader.pass encoding piece rest)) := by
  have hadvance : (inHand taken.length reader state).advance false = _ :=
    AsFarAs.advance_of_cutPiece? hsettled hcut
  cases hdecode : encoding.decodePiece reader.count piece with
  | error error =>
      rw [hdecode] at hadvance
      exact .of_error (h.reads_of_decided (by rw [hadvance]; rfl))
  | ok line =>
      rw [hdecode] at hadvance
      cases hfinal : (state.classify line).1.isFinal with
      | true =>
          simp only [hfinal, if_true] at hadvance
          refine .concluded ?_ (h.reads_of_decided (by rw [hadvance]; rfl))
          rintro _ ⟨⟩
          exact hfinal
      | false =>
          simp only [hfinal, Bool.false_eq_true, if_false] at hadvance
          exact .underWay hfinal ⟨h.more, h.reads, h.asFar.trans hadvance⟩

/-- A call for a line makes none but needed calls on the source. -/
theorem Reading.nextLine
    (h : Reading start reader state) :
    Answered start state reader.nextLine := by
  have hprepared := h.requireEncoding
  rw [LineReader.nextLine]
  generalize reader.requireEncoding = prepared at hprepared
  rcases prepared with ⟨_ | encoding, ready⟩
  · cases hprepared with
    | failed hreads => exact .of_error hreads
  · have hsought := hprepared.seekPiece
    simp only
    generalize ready.seekPiece encoding 0 = sought at hsought
    cases hsought with
    | failed hreads => exact .of_error hreads
    | underWay hunder hsettled hcut => exact hunder.answered hsettled hcut
    | @atEnd found next hend =>
        rcases found with _ | ⟨piece, rest⟩
        · exact .atEnd hend
        · have hpassed : AtEnd start (next.pass encoding piece rest) := ⟨hend.exhausted, hend.reads⟩
          simp only
          split
          · exact .atEnd hpassed
          · exact .atEnd hpassed

theorem Answered.reads
    {answer : Except LineError (Option (List Char))}
    (h : Answered start state (answer, next))
    (hlast : ∀ line, answer = .ok (some line) → (state.classify line).1.isFinal = true) :
    NeededReads [] start next.source := by
  cases h with
  | concluded _ hreads => exact hreads
  | atEnd hend => exact hend.reads
  | underWay hgoing _ =>
      rw [hlast _ rfl] at hgoing
      cases hgoing

theorem Answered.reading
    {line : List Char}
    (h : Answered start state (.ok (some line), next))
    (hgoing : (state.classify line).1.isFinal = false) :
    Reading start next (state.classify line).2 := by
  cases h with
  | concluded hlast _ =>
      rw [hlast line rfl] at hgoing
      cases hgoing
  | atEnd hend => exact Or.inl hend
  | underWay _ hunder => exact Or.inr ⟨_, hunder⟩

/-- A run makes the calls that it needs on its source, and no other. -/
theorem scanLines_reads
    (events : List Event)
    (h : Reading start reader state) :
    NeededReads [] start (scanLines reader state events).reader.source := by
  fun_induction scanLines reader state events with
  | case1 reader state events error next hline =>
      have hanswered := h.nextLine
      rw [hline] at hanswered
      exact hanswered.reads fun _ hanswer => by cases hanswer
  | case2 reader state events error next hline =>
      have hanswered := h.nextLine
      rw [hline] at hanswered
      exact hanswered.reads fun _ hanswer => by cases hanswer
  | case3 reader state events next hline =>
      have hanswered := h.nextLine
      rw [hline] at hanswered
      exact hanswered.reads fun _ hanswer => by cases hanswer
  | case4 reader state events next line hline verdict after hstep events' hfinal =>
      have hanswered := h.nextLine
      rw [hline] at hanswered
      refine hanswered.reads ?_
      rintro _ ⟨⟩
      rw [hstep]
      exact hfinal
  | case5 reader state events next line hline verdict after hstep events' hfinal ih =>
      have hanswered := h.nextLine
      rw [hline] at hanswered
      have hreading := hanswered.reading
      rw [hstep] at hreading
      exact ih (hreading (Bool.eq_false_iff.2 hfinal))

/-- At the beginning of a source no call has been made, and a detector has been fed nothing. -/
theorem reading_ofSource
    (source : Source)
    (capacity : Nat) :
    Reading source (.ofSource source capacity) .start :=
  Or.inr ⟨[], rfl, fun _ hreads => hreads, rfl⟩

end Lines

end Runs

section Exactness

/-- Whether calls follow one that came out as given, made by somebody who had taken in the given
bytes before: none at the end of the input, more if the bytes that arrived leave the answer open,
and more behind an interruption but not behind any other failure. -/
def Follow (taken : Bytes) (after : List (Except IoError Bytes)) : Except IoError Bytes → Prop
  | .ok [] => after = []
  | .ok (byte :: more) => after ≠ [] ↔ Undecided (taken ++ byte :: more)
  | .error error => after ≠ [] ↔ error.kind = .interrupted

/-- The answers to a series of needed calls: each call is made while the bytes so far leave the
answer open, and the one behind it is made just if it has to be. -/
structure Needed (taken : Bytes) (answers : List (Except IoError Bytes)) : Prop where
  nonempty : answers ≠ [] ↔ Undecided taken
  follow : ∀ before answer after, answers = before ++ answer :: after →
    Undecided (taken ++ Source.returned before) ∧
      Follow (taken ++ Source.returned before) after answer

theorem needed_nil
    {taken : Bytes}
    (hdecided : ¬ Undecided taken) :
    Needed taken [] where
  nonempty := by simp [hdecided]
  follow := by
    intro before answer after h
    cases List.append_ne_nil_of_right_ne_nil before (List.cons_ne_nil answer after) h.symm

/-- A call in front of needed ones is needed if it is made in time and rightly followed by them. -/
theorem Needed.cons
    {taken : Bytes}
    {first : Except IoError Bytes}
    {answers : List (Except IoError Bytes)}
    (hundecided : Undecided taken)
    (hfollow : Follow taken answers first)
    (hmore : ∀ before answer after, answers = before ++ answer :: after →
      Undecided (taken ++ Source.returned (first :: before)) ∧
        Follow (taken ++ Source.returned (first :: before)) after answer) :
    Needed taken (first :: answers) where
  nonempty := by simp [hundecided]
  follow := by
    intro before answer after h
    cases before with
    | nil =>
        cases h
        rw [Source.returned, List.append_nil]
        exact ⟨hundecided, hfollow⟩
    | cons head others =>
        cases h
        exact hmore others answer after rfl

/-- A series of needed calls can be made again, and its answers show that they were needed. -/
theorem NeededReads.exists_rooms
    {taken : Bytes}
    {source final : Source}
    (h : NeededReads taken source final) :
    ∃ rooms, (source.readAll rooms).2 = final ∧ Needed taken (source.readAll rooms).1 := by
  induction h with
  | decided hdecided =>
      exact ⟨[], rfl, needed_nil hdecided⟩
  | @ended taken source final offered hundecided hread =>
      refine ⟨[offered], ?_, ?_⟩
      · simp only [Source.readAll, hread]
      · simp only [Source.readAll, hread]
        exact .cons hundecided rfl (by simp)
  | @failed taken source final offered error hundecided hread hkind =>
      refine ⟨[offered], ?_, ?_⟩
      · simp only [Source.readAll, hread]
      · simp only [Source.readAll, hread]
        exact .cons hundecided (by simp [Follow, hkind]) (by simp)
  | @interrupted taken source next final offered error hundecided hread hkind _ ih =>
      obtain ⟨rooms, hfinal, hneeded⟩ := ih
      refine ⟨offered :: rooms, ?_, ?_⟩
      · simp only [Source.readAll, hread, hfinal]
      · simp only [Source.readAll, hread]
        have hfollow : Follow taken (next.readAll rooms).1 (.error error) := by
          simp [Follow, hkind, hneeded.nonempty, hundecided]
        exact .cons hundecided hfollow hneeded.follow
  | @arrived taken source next final offered data hundecided hread hne _ ih =>
      obtain ⟨rooms, hfinal, hneeded⟩ := ih
      obtain ⟨byte, others, rfl⟩ := List.exists_cons_of_ne_nil hne
      refine ⟨offered :: rooms, ?_, ?_⟩
      · simp only [Source.readAll, hread, hfinal]
      · simp only [Source.readAll, hread]
        refine .cons hundecided hneeded.nonempty ?_
        intro before answer after h
        rw [Source.returned, ← List.append_assoc]
        exact hneeded.follow before answer after h

/-- **A detection reads as far as it must, and no further.**  The rooms that its calls offered tell
the calls, and so their answers.  A call is made only while the bytes of those before it leave a
detector undecided, that is, while no complete line among them decides: neither by its verdict nor
by not being text in the encoding, if the encoding can be told.  Behind a call that returned bytes
another one is made just if a detector that was fed all bytes so far is still undecided.  Behind an
interruption one is made, and none at the end of the input and behind any other failure. -/
theorem detect_reads_no_further
    (script : List Delivery)
    (capacity : Nat) :
    let source : Source := ⟨script, []⟩
    let last := (detect source capacity).reader.source
    let rooms := last.calls.reverse.map ReadCall.offered
    let answers := (source.readAll rooms).1
    (source.readAll rooms).2 = last ∧
      answers ≠ [] ∧
      ∀ before answer after, answers = before ++ answer :: after →
        Undecided (Source.returned before) ∧
        (Detector.transcriptSoFar (Source.returned before)).ending.isFinal = false ∧
        Follow (Source.returned before) after answer := by
  intro source last rooms answers
  have hreads : NeededReads [] source last := scanLines_reads [] (reading_ofSource source capacity)
  obtain ⟨made, hlast, hneeded⟩ := hreads.exists_rooms
  have hrooms : rooms = made := by
    simp only [rooms, ← hlast, Source.offered_readAll]
    rfl
  rw [← hrooms] at hlast hneeded
  refine ⟨hlast, hneeded.nonempty.2 (by rfl), ?_⟩
  intro before answer after h
  obtain ⟨hundecided, hfollow⟩ := hneeded.follow before answer after h
  refine ⟨hundecided, ?_, hfollow⟩
  rw [← (Detector.feed_piecesArrived (Source.returned before)).2]
  exact hundecided

/-- The line break lies behind the first call, and decides when the second one has delivered it. -/
example :
    (detect ⟨[.bytes [0x3C, 0x72, 0x3E, 0x0A], .bytes [0x3C]], []⟩ 0).reader.source =
      ⟨[.bytes [0x3C]], [⟨3, .delivered 1⟩, ⟨3, .delivered 3⟩]⟩ := by
  decide +kernel

end Exactness

end Detection
end XmlPreamble
