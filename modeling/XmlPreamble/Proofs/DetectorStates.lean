import Mathlib.Data.List.Induction
import XmlPreamble.Proofs.LineNumbers
import XmlPreamble.Proofs.LinesInTurn
import XmlPreamble.Proofs.SessionIsolation

/-!
# The states of a detector

All that calls can leave behind in a detector can be told from the bytes that it was fed.  As long
as there is no answer, it is as if the bytes had been fed in one chunk: too few of them to tell the
encoding, or the lines that are complete have been looked at in turn and the bytes behind the last
terminator are held back.  Once there is an answer, nothing is held back and nothing changes any
more.

Main statements:

- `Detector.scanned_of_undecided`: what a scan has done that comes to no answer;
- `alone_eq_feed`: without an answer, calls in turn are one chunk;
- `standing_alone`: how a detector stands behind any calls.
-/

namespace XmlPreamble

namespace Encoding

section Units

variable {encoding : Encoding}
variable {bytes rest : Bytes}

/-- A search finds nothing just if no code unit ends a line. -/
theorem findLineEndFrom_eq_none_iff
    {index : Nat} :
    encoding.findLineEndFrom index bytes = none ↔
      ∀ unit ∈ encoding.codeUnits bytes, unit ≠ 0x0A ∧ unit ≠ 0x0D := by
  fun_induction findLineEndFrom encoding index bytes with
  | case1 index byte rest hend =>
      obtain ⟨terminator, hterminator⟩ := Option.isSome_iff_exists.1 hend
      rw [codeUnits, List.forall_mem_cons, ← ofCode?_eq_none_iff, hterminator]
      simp
  | case2 index byte rest hend ih =>
      have hnone : Terminator.ofCode? byte.toNat = none := by simpa using hend
      rw [codeUnits, List.forall_mem_cons, ← ofCode?_eq_none_iff, ih]
      exact (and_iff_right hnone).symm
  | case3 order index first second rest hend =>
      obtain ⟨terminator, hterminator⟩ := Option.isSome_iff_exists.1 hend
      rw [codeUnits, List.forall_mem_cons, ← ofCode?_eq_none_iff, hterminator]
      simp
  | case4 order index first second rest hend ih =>
      have hnone : Terminator.ofCode? (order.unit first second).toNat = none := by simpa using hend
      rw [codeUnits, List.forall_mem_cons, ← ofCode?_eq_none_iff, ih]
      exact (and_iff_right hnone).symm
  | case5 bytes encoding index hutf8 hutf16 =>
      have hnone : encoding.codeUnits bytes = [] := by
        unfold codeUnits
        split
        · exact (hutf8 _ _ rfl rfl).elim
        · exact (hutf16 _ _ _ _ rfl rfl).elim
        · rfl
      simp [hnone]

/-- A piece and what is left behind it are the bytes that were cut. -/
theorem spelling_append_of_cutPiece?
    {piece : Piece}
    (h : encoding.cutPiece? bytes 0 = some (piece, rest)) :
    encoding.spelling piece ++ rest = bytes := by
  have hspelled := encoding.flatMap_spelling_pieces bytes
  rw [pieces_eq_cons h, List.flatMap_cons, flatMap_spelling_pieces] at hspelled
  exact hspelled

end Units

section Folding

variable {encoding : Encoding}

/-- The state behind lines in turn, as far as their texts go. -/
def stateBehind (encoding : Encoding) (state : Scan.State) (lines : List Bytes) : Scan.State :=
  lines.foldl (fun state line => (state.classify (encoding.decode line).text).2) state

/-- Lines that settle nothing are texts, and they leave the state that their texts leave. -/
theorem stateBehind_of_lookAll
    {state next : Scan.State}
    {lines : List Bytes}
    (h : encoding.lookAll state lines = .ok next) :
    (∀ line ∈ lines, (encoding.decode line).fault = none) ∧
      encoding.stateBehind state lines = next := by
  induction lines generalizing state with
  | nil =>
      cases h
      exact ⟨List.forall_mem_nil _, rfl⟩
  | cons line lines ih =>
      rw [lookAll_cons] at h
      cases hlook : encoding.look state line with
      | error mode =>
          rw [hlook] at h
          cases h
      | ok between =>
          rw [hlook] at h
          obtain ⟨text, hdecoded, hstep⟩ := look_eq_ok_iff.1 hlook
          obtain ⟨hfaults, hstate⟩ := ih h
          refine ⟨List.forall_mem_cons.2 ⟨by rw [hdecoded], hfaults⟩, ?_⟩
          rw [stateBehind, List.foldl_cons, hdecoded, hstep]
          exact hstate

end Folding

end Encoding

namespace LineCount

/-- The numbering goes on from the terminator of the last piece. -/
theorem afterCarriageReturn_foldl_iff
    {count : LineCount}
    (hcount : count.afterCarriageReturn = false)
    (pieces : List Piece) :
    (pieces.foldl advance count).afterCarriageReturn = true ↔
      ∃ piece, pieces.getLast? = some piece ∧ piece.terminator = some .carriageReturn := by
  cases hlast : pieces.getLast? with
  | none =>
      rw [List.getLast?_eq_none_iff.1 hlast, List.foldl_nil, hcount]
      simp
  | some piece =>
      obtain ⟨front, rfl⟩ := List.getLast?_eq_some_iff.1 hlast
      rw [List.foldl_append, List.foldl_cons, List.foldl_nil, advance, beq_iff_eq]
      simp

end LineCount

namespace Detection
namespace Detector

open Encoding

section Scanning

variable {detector : Detector}
variable {encoding : Encoding}

/-- What has been done to a detector whose complete pieces have been looked at and came to no
answer. -/
structure Scanned (encoding : Encoding) (before after : Detector) : Prop where
  spelled : (encoding.completePieces before.buffer).flatMap encoding.spelling ++ after.buffer =
    before.buffer
  uncut : encoding.cutPiece? after.buffer 0 = none
  searched : after.searched = encoding.wholeUnits after.buffer.length
  count : after.count = (encoding.completePieces before.buffer).foldl LineCount.advance before.count
  looked : encoding.lookAll before.state ((encoding.completePieces before.buffer).map Piece.body) =
    .ok after.state
  encoding : after.encoding = before.encoding

/-- A scan that comes to no answer has looked at the complete pieces and holds back the rest. -/
theorem scanned_of_undecided
    (hopen : detector.Open)
    (hsettled : detector.encoding = some encoding)
    (h : (detector.scan encoding false).1.decision = none) :
    Scanned encoding detector (detector.scan encoding false).1 := by
  fun_induction scan detector encoding false with
  | case1 detector hnone hend => cases hend
  | case2 detector hnone hgoing =>
      have hcut := (cutPiece?_of_nextPiece?_none hnone).1
      rw [(hopen.searchedTo _ hsettled).cutPiece?_eq] at hcut
      have hpieces := completePieces_of_cutPiece?_none hcut
      refine ⟨?_, hcut, rfl, ?_, ?_, rfl⟩
      · rw [hpieces]
        rfl
      · rw [hpieces]
        rfl
      · rw [hpieces]
        rfl
  | case3 => cases h
  | case4 => cases h
  | case5 detector piece rest hpiece passed line hline verdict state hstep looked hfinal ih =>
      have hafter := ih (hopen.passed hpiece state) hsettled h
      have hpieces := completePieces_of_nextPiece? hopen hsettled hpiece
      have hlook : encoding.look detector.state piece.body = .ok state := by
        rw [look_of_text (decode_of_decodePiece_ok hline), hstep, if_neg hfinal]
      have hcut := hpiece
      rw [nextPiece?_of_going, (hopen.searchedTo _ hsettled).cutPiece?_eq] at hcut
      refine ⟨?_, hafter.uncut, hafter.searched, ?_, ?_, hafter.encoding⟩
      · have hrest := hafter.spelled
        rw [hpieces, List.flatMap_cons, List.append_assoc]
        exact (congrArg _ hrest).trans (spelling_append_of_cutPiece? hcut)
      · rw [hpieces, List.foldl_cons]
        exact hafter.count
      · rw [hpieces, List.map_cons, lookAll_cons, hlook]
        exact hafter.looked

theorem bytesSeen_scan
    (detector : Detector)
    (encoding : Encoding)
    (atEnd : Bool) :
    (detector.scan encoding atEnd).1.bytesSeen = detector.bytesSeen := by
  fun_induction scan detector encoding atEnd with
  | case1 => rfl
  | case2 => rfl
  | case3 => rfl
  | case4 => rfl
  | case5 detector piece rest hpiece passed line hline verdict state hstep looked hfinal ih =>
      exact ih

/-- Looking at what is held back counts no bytes. -/
theorem bytesSeen_advance
    (detector : Detector)
    (atEnd : Bool) :
    (detector.advance atEnd).1.bytesSeen = detector.bytesSeen := by
  rw [advance]
  split
  · exact bytesSeen_scan detector _ atEnd
  · split
    · exact bytesSeen_scan detector.settleEncoding _ atEnd
    · rfl

end Scanning

section Feeding

variable {bytes : Bytes}

theorem bytesSeen_feed_fresh (bytes : Bytes) : (fresh.feed bytes).1.bytesSeen = bytes.length := by
  rw [feed_of_undecided rfl, bytesSeen_advance]
  exact Nat.zero_add _

/-- A chunk that is too short to tell the encoding is held back. -/
theorem feed_of_short (hshort : bytes.length < sniffLength) :
    fresh.feed bytes = (fresh.receive bytes, []) := by
  rw [feed_of_undecided rfl]
  exact advance_of_short rfl hshort

/-- What a chunk has done to a fresh detector that tells the encoding and comes to no answer. -/
theorem scanned_feed
    (hlong : sniffLength ≤ bytes.length)
    (h : (fresh.feed bytes).1.decision = none) :
    Scanned (sniff bytes) (fresh.receive bytes).settleEncoding (fresh.feed bytes).1 := by
  have hsniffed : (fresh.receive bytes).advance false =
      (fresh.receive bytes).settleEncoding.scan (sniff bytes) false :=
    advance_of_sniffed rfl hlong
  rw [feed_of_undecided rfl, hsniffed] at h ⊢
  exact scanned_of_undecided ((open_fresh.receive bytes).settleEncoding rfl) rfl h

/-- The complete pieces behind the byte order mark are those that have arrived. -/
theorem completePieces_settleEncoding (hlong : sniffLength ≤ bytes.length) :
    (sniff bytes).completePieces (fresh.receive bytes).settleEncoding.buffer =
      piecesArrived bytes := by
  rw [piecesArrived, if_neg (by omega)]
  rfl

/-- The lines that have arrived leave the state in which a detector stands that was fed them. -/
theorem lookAll_piecesArrived
    (hlong : sniffLength ≤ bytes.length)
    (h : (fresh.feed bytes).1.decision = none) :
    (sniff bytes).lookAll .start ((piecesArrived bytes).map Piece.body) =
      .ok (fresh.feed bytes).1.state := by
  rw [← completePieces_settleEncoding hlong]
  exact (scanned_feed hlong h).looked

end Feeding

end Detector
end Detection

namespace Interface

open Detection Detector Encoding

/-- The bytes that an input brings. -/
def Input.data : Input → Bytes
  | chunk data => data
  | ending => []

/-- What an input is answered. -/
def Input.reply (detector : Detector) : Input → Option Mode
  | chunk data => (detector.feed data).1.decision
  | ending => some detector.finish.1.answer

/-- The bytes that inputs bring, one after the other. -/
def fedBytes (inputs : List Input) : Bytes :=
  inputs.flatMap Input.data

section States

/-- A detector that was fed too few bytes to tell the encoding holds them all back. -/
structure Waiting (bytes : Bytes) (detector : Detector) : Prop where
  undecided : detector.decision = none
  short : bytes.length < sniffLength
  bytesSeen : detector.bytesSeen = bytes.length
  encoding : detector.encoding = none
  buffer : detector.buffer = bytes
  searched : detector.searched = 0
  number : detector.count.number = 0

/-- A detector that was fed enough bytes to tell the encoding, with no answer among the lines that
are complete, holds back what is behind the last terminator. -/
structure Reading (bytes : Bytes) (detector : Detector) : Prop where
  undecided : detector.decision = none
  long : sniffLength ≤ bytes.length
  bytesSeen : detector.bytesSeen = bytes.length
  encoding : detector.encoding = some (sniff bytes)
  /-- Before the bytes held back lie the byte order mark and pieces that terminators end. -/
  buffer : (piecesArrived bytes).flatMap (sniff bytes).spelling ++ detector.buffer =
    bytes.drop ((sniff bytes).signatureLength bytes)
  /-- No terminator is among the code units held back. -/
  unbroken : ∀ unit ∈ (sniff bytes).codeUnits detector.buffer, unit ≠ 0x0A ∧ unit ≠ 0x0D
  searched : detector.searched = (sniff bytes).wholeUnits detector.buffer.length
  count : detector.count = (piecesArrived bytes).foldl LineCount.advance {}
  afterCarriageReturn : detector.count.afterCarriageReturn = true ↔
    ∃ piece, (piecesArrived bytes).getLast? = some piece ∧
      piece.terminator = some .carriageReturn
  texts : ∀ piece ∈ piecesArrived bytes, ((sniff bytes).decode piece.body).fault = none
  state : detector.state =
    (sniff bytes).stateBehind .start ((piecesArrived bytes).map Piece.body)

/-- A detector that has come to an answer holds nothing back and has counted the bytes up to the
input that brought the answer; no input changes it or is answered anything else. -/
structure Settled (inputs : List Input) (mode : Mode) (detector : Detector) : Prop where
  decision : detector.decision = some mode
  buffer : detector.buffer = []
  searched : detector.searched = 0
  deciding : ∃ before given later, inputs = before ++ given :: later ∧
    (alone before).decision = none ∧ given.apply (alone before) = detector ∧
    detector.bytesSeen = (fedBytes (before ++ [given])).length
  unchanged : ∀ given : Input, given.apply detector = detector
  reply : ∀ given : Input, given.reply detector = some mode

/-- How a detector stands behind inputs. -/
inductive Standing (inputs : List Input) (detector : Detector) : Prop
  | waiting
      (h : Waiting (fedBytes inputs) detector)
  | reading
      (h : Reading (fedBytes inputs) detector)
  | settled
      (mode : Mode)
      (h : Settled inputs mode detector)

end States

section Undecided

variable {inputs : List Input}

theorem alone_concat
    (inputs : List Input)
    (given : Input) :
    alone (inputs ++ [given]) = given.apply (alone inputs) := by
  rw [alone, List.foldl_append]
  rfl

theorem fedBytes_concat
    (inputs : List Input)
    (given : Input) :
    fedBytes (inputs ++ [given]) = fedBytes inputs ++ given.data := by
  rw [fedBytes, List.flatMap_append, List.flatMap_singleton]
  rfl

/-- Without an answer, calls in turn are one chunk. -/
theorem alone_eq_feed
    (h : (alone inputs).decision = none) :
    alone inputs = (fresh.feed (fedBytes inputs)).1 := by
  induction inputs using List.reverseRecOn with
  | nil =>
      have hnothing := atRest_fresh.feed_nil
      exact (congrArg Prod.fst hnothing).symm
  | append_singleton inputs given ih =>
      rw [alone_concat] at h ⊢
      cases given with
      | ending =>
          cases h
      | chunk data =>
          cases hbefore : (alone inputs).decision with
          | some mode =>
              have hdecided : (alone inputs).isDecided = true := by
                rw [isDecided, hbefore]
                rfl
              rw [Input.apply, feed_of_decided hdecided, hbefore] at h
              cases h
          | none =>
              have hone := ih hbefore
              rw [fedBytes_concat, hone]
              rcases feed_append open_fresh (fedBytes inputs) data with ⟨hdecided, -⟩ | ⟨-, hwhole⟩
              · rw [← hone, isDecided, hbefore] at hdecided
                cases hdecided
              · rw [Input.apply, hwhole]
                rfl

/-- A detector that was fed enough bytes in one chunk and came to no answer is reading. -/
theorem reading_of_undecided
    {bytes : Bytes}
    (hlong : sniffLength ≤ bytes.length)
    (h : (fresh.feed bytes).1.decision = none) :
    Reading bytes (fresh.feed bytes).1 := by
  obtain ⟨hspelled, huncut, hsearched, hcount, hlooked, hencoding⟩ := scanned_feed hlong h
  rw [completePieces_settleEncoding hlong] at hspelled hcount hlooked
  obtain ⟨htexts, hstate⟩ := stateBehind_of_lookAll hlooked
  refine ⟨h, hlong, bytesSeen_feed_fresh bytes, hencoding, hspelled, ?_, hsearched, hcount, ?_, ?_,
    hstate.symm⟩
  · exact findLineEndFrom_eq_none_iff.1 (findLineEnd_eq_none_of_cutPiece? huncut)
  · rw [hcount]
    exact LineCount.afterCarriageReturn_foldl_iff rfl _
  · intro piece hpiece
    exact htexts _ (List.mem_map_of_mem hpiece)

/-- How a detector stands behind inputs that came to no answer. -/
theorem standing_of_undecided
    (h : (alone inputs).decision = none) :
    Waiting (fedBytes inputs) (alone inputs) ∨ Reading (fedBytes inputs) (alone inputs) := by
  have hone := alone_eq_feed h
  rw [hone] at h ⊢
  by_cases hlong : sniffLength ≤ (fedBytes inputs).length
  · exact .inr (reading_of_undecided hlong h)
  · rw [Nat.not_le] at hlong
    rw [feed_of_short hlong]
    exact .inl ⟨rfl, hlong, Nat.zero_add _, rfl, rfl, rfl, rfl⟩

/-- Every byte that brought no answer has been counted. -/
theorem bytesSeen_of_undecided
    (h : (alone inputs).decision = none) :
    (alone inputs).bytesSeen = (fedBytes inputs).length := by
  rcases standing_of_undecided h with hwaiting | hreading
  · exact hwaiting.bytesSeen
  · exact hreading.bytesSeen

end Undecided

section Decided

variable {inputs : List Input}
variable {detector : Detector}
variable {mode : Mode}

/-- The input that brings the answer is counted, and nothing is held back behind it. -/
theorem apply_of_undecided
    {given : Input}
    (hundecided : detector.decision = none)
    (hmode : (given.apply detector).decision = some mode) :
    (given.apply detector).decide mode = given.apply detector ∧
      (given.apply detector).bytesSeen = detector.bytesSeen + given.data.length := by
  have hlook : ∃ held : Detector, ∃ atEnd, given.apply detector = (held.advance atEnd).1 ∧
      held.decision = none ∧ held.bytesSeen = detector.bytesSeen + given.data.length := by
    cases given with
    | chunk data =>
        exact ⟨detector.receive data, false, congrArg Prod.fst (feed_of_undecided hundecided data),
          hundecided, rfl⟩
    | ending =>
        exact ⟨detector, true,
          congrArg Prod.fst (finish_of_undecided (isDecided_of_undecided hundecided)),
          hundecided, rfl⟩
  obtain ⟨held, atEnd, happly, hheld, hseen⟩ := hlook
  rw [happly] at hmode ⊢
  refine ⟨?_, (bytesSeen_advance held atEnd).trans hseen⟩
  rcases held.advance_decide atEnd with hdecide | ⟨-, hkept⟩
  · rw [answer, hmode] at hdecide
    exact hdecide
  · rw [hkept, hheld] at hmode
    cases hmode

/-- An answer stands, whatever is fed. -/
theorem apply_of_decided
    (h : detector.decide mode = detector)
    (given : Input) :
    given.apply detector = detector ∧ given.reply detector = some mode := by
  have hdecision : detector.decision = some mode := by
    rw [← h]
    rfl
  have hdecided : detector.isDecided = true := by
    rw [isDecided, hdecision]
    rfl
  cases given with
  | chunk data =>
      rw [Input.apply, Input.reply, feed_of_decided hdecided]
      exact ⟨rfl, hdecision⟩
  | ending =>
      rw [Input.apply, Input.reply, finish_of_decided hdecision]
      exact ⟨h, rfl⟩

/-- A detector that has just come to an answer is settled. -/
theorem settled_concat
    {given : Input}
    (hundecided : (alone inputs).decision = none)
    (hmode : (given.apply (alone inputs)).decision = some mode) :
    Settled (inputs ++ [given]) mode (given.apply (alone inputs)) := by
  obtain ⟨hdecide, hseen⟩ := apply_of_undecided hundecided hmode
  refine ⟨hmode, ?_, ?_, ⟨inputs, given, [], rfl, hundecided, rfl, ?_⟩, ?_, ?_⟩
  · rw [← hdecide]
    rfl
  · rw [← hdecide]
    rfl
  · rw [hseen, bytesSeen_of_undecided hundecided, fedBytes_concat, List.length_append]
  · exact fun later => (apply_of_decided hdecide later).1
  · exact fun later => (apply_of_decided hdecide later).2

/-- It stays settled. -/
theorem Settled.concat
    (h : Settled inputs mode detector)
    (given : Input) :
    Settled (inputs ++ [given]) mode (given.apply detector) := by
  rw [h.unchanged given]
  obtain ⟨before, deciding, later, rfl, hundecided, happly, hseen⟩ := h.deciding
  refine ⟨h.decision, h.buffer, h.searched, ?_, h.unchanged, h.reply⟩
  exact ⟨before, deciding, later ++ [given], by simp, hundecided, happly, hseen⟩

/-- A detector that has come to an answer is settled. -/
theorem settled_of_decided
    (h : (alone inputs).decision = some mode) :
    Settled inputs mode (alone inputs) := by
  induction inputs using List.reverseRecOn generalizing mode with
  | nil =>
      cases h
  | append_singleton inputs given ih =>
      rw [alone_concat] at h ⊢
      cases hbefore : (alone inputs).decision with
      | none =>
          exact settled_concat hbefore h
      | some early =>
          have hstays := (ih hbefore).concat given
          rw [hstays.decision] at h
          cases h
          exact hstays

/-- **The states of a detector.**  Behind any chunks and ends of the input, in any order, a new
detector is in one of three states.  It was fed too few bytes to tell the encoding, and holds them;
or it has told the encoding, has looked at the complete lines in turn, which settled nothing, and
holds what is behind the last terminator; or it has come to an answer, holds nothing, and neither
changes nor answers anything else from then on. -/
theorem standing_alone (inputs : List Input) : Standing inputs (alone inputs) := by
  cases hdecision : (alone inputs).decision with
  | none =>
      rcases standing_of_undecided hdecision with hwaiting | hreading
      · exact .waiting hwaiting
      · exact .reading hreading
  | some mode =>
      exact .settled mode (settled_of_decided hdecision)

end Decided

end Interface
end XmlPreamble
