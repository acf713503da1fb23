import XmlPreamble.Detection.Push
import XmlPreamble.Proofs.PullDetection

/-!
# Detection by feeding chunks says what the whole document says

A detector that is fed chunks holds back what it cannot look at yet.  As long as it is undecided,
what it will say hangs on the bytes held back and on what is still to come, and on nothing else of
the past than the numbering and the state of the scan.  `Detector.outlook` is that dependence: how
the look at the document ends if the given bytes are still to come.  Feeding moves bytes from what
is to come into the detector and leaves the outlook alone, until it is a settled matter.

Main statements:

- `scan_outlook`: a scan either goes on with the same outlook or decides as it was foreseen;
- `feed_outlook` and `finish_outlook`: so do a chunk and the end of the input;
- `feedThenFinish_of_flatten` and `answer_feedThenFinish`: a run over chunks says what the document
  says, and comes to its mode;
- `push_agrees_with_pull`: pushing and pulling a document come to the same end.
-/

namespace XmlPreamble
namespace Detection
namespace Detector

open Encoding

section Outlook

/-- How the look at the document ends if `more` is still to come. -/
def outlook (detector : Detector) (more : Bytes) : Ending :=
  let bytes := detector.buffer ++ more
  match detector.encoding with
  | some encoding =>
      (Transcript.ofPieces encoding detector.count detector.state (encoding.pieces bytes)).ending
  | none =>
      (Transcript.ofPieces (sniff bytes) detector.count detector.state
        (documentPieces (sniff bytes) bytes)).ending

theorem outlook_fresh (document : Bytes) : fresh.outlook document = (transcript document).ending :=
  rfl

theorem outlook_of_settled
    {detector : Detector}
    {encoding : Encoding}
    (h : detector.encoding = some encoding)
    (more : Bytes) :
    detector.outlook more =
      (Transcript.ofPieces encoding detector.count detector.state
        (encoding.pieces (detector.buffer ++ more))).ending := by
  rw [outlook, h]

/-- A detector that is still undecided, and whose search can be resumed. -/
structure Open (detector : Detector) : Prop where
  undecided : detector.decision = none
  searched_le : detector.searched ≤ detector.buffer.length
  searchedTo : ∀ encoding, detector.encoding = some encoding →
    encoding.SearchedTo detector.buffer detector.searched
  unsearched : detector.encoding = none → detector.searched = 0

/-- A search that has not begun can be resumed. -/
theorem Open.of_searched_zero
    {detector : Detector}
    (hundecided : detector.decision = none)
    (hzero : detector.searched = 0) :
    detector.Open := by
  refine ⟨hundecided, ?_, ?_, fun _ => hzero⟩
  · rw [hzero]
    exact Nat.zero_le _
  · intro encoding _
    rw [hzero]
    exact searchedTo_zero _ _

theorem open_fresh : fresh.Open :=
  .of_searched_zero rfl rfl

theorem isDecided_of_undecided
    {detector : Detector}
    (h : detector.decision = none) :
    detector.isDecided = false := by
  rw [isDecided, h]
  rfl

/-- A detector has come to an end of the look, and has told of it. -/
structure Ended (ending : Ending) (detector : Detector) (events : List Event) : Prop where
  decision : detector.decision = some ending.mode
  events : events = [ending.event (.bytes detector.bytesSeen)]

/-- A detector whose scan ends with a verdict has come to this end. -/
theorem ended_conclude
    (detector : Detector)
    (verdict : Scan.Verdict) :
    Ended (.settled verdict detector.count.number) (detector.conclude verdict).1
      (detector.conclude verdict).2 := by
  cases verdict <;> exact ⟨rfl, rfl⟩

/-- What has become of a detector was foreseen: it has come to the end that its outlook promised,
or it is still open and has the outlook that it had. -/
def Foreseen (atEnd : Bool) (before : Detector) (result : Detector × List Event) : Prop :=
  (∃ ending, Ended ending result.1 result.2 ∧
    ∀ more, (atEnd = true → more = []) → before.outlook more = ending) ∨
  (atEnd = false ∧ result.1.Open ∧ result.2 = [] ∧
    ∀ more, before.outlook more = result.1.outlook more)

/-- What was foreseen from a later point was foreseen from an earlier one with the same outlook. -/
theorem Foreseen.of_outlook
    {atEnd : Bool}
    {before between : Detector}
    {result : Detector × List Event}
    (hsame : ∀ more, (atEnd = true → more = []) → before.outlook more = between.outlook more)
    (h : Foreseen atEnd between result) :
    Foreseen atEnd before result := by
  rcases h with ⟨ending, hended, hlook⟩ | ⟨hgoing, hopen, hquiet, hlook⟩
  · left
    refine ⟨ending, hended, ?_⟩
    intro more hmore
    rw [hsame more hmore, hlook more hmore]
  · right
    refine ⟨hgoing, hopen, hquiet, ?_⟩
    intro more
    have hmore : atEnd = true → more = [] := by
      intro hend
      rw [hgoing] at hend
      cases hend
    rw [hsame more hmore, hlook more]

end Outlook

section Scanning

variable {detector : Detector}
variable {encoding : Encoding}
variable {atEnd : Bool}
variable {piece : Piece}
variable {rest : Bytes}

/-- The next piece is the first one of the bytes held back, whatever is still to come. -/
theorem pieces_of_nextPiece?_some
    (hopen : encoding.SearchedTo detector.buffer detector.searched)
    (h : detector.nextPiece? encoding atEnd = some (piece, rest))
    {more : Bytes}
    (hmore : atEnd = true → more = []) :
    encoding.pieces (detector.buffer ++ more) = piece :: encoding.pieces (rest ++ more) := by
  simp only [nextPiece?] at h
  split at h
  · rename_i found hcut
    cases h
    exact pieces_append_of_cutPiece?_some more hopen hcut
  · rename_i hcut
    split at h
    · rename_i hend
      rw [Bool.and_eq_true, Bool.not_eq_true'] at hend
      simp only [Option.some.injEq, Prod.mk.injEq] at h
      obtain ⟨rfl, rfl⟩ := h
      rw [hmore hend.1, List.append_nil, List.append_nil, pieces_nil,
        pieces_of_searchedTo hopen hcut, lastPiece, if_neg (Bool.eq_false_iff.1 hend.2)]
    · simp at h

/-- Without a next piece, the bytes held back are at most the beginning of one. -/
theorem cutPiece?_of_nextPiece?_none
    (h : detector.nextPiece? encoding atEnd = none) :
    encoding.cutPiece? detector.buffer detector.searched = none ∧
      (atEnd = true → detector.buffer = []) := by
  simp only [nextPiece?] at h
  split at h
  · simp at h
  · rename_i hcut
    refine ⟨hcut, ?_⟩
    intro hend
    rw [hend, Bool.true_and] at h
    split at h
    · simp at h
    · rename_i hempty
      simpa using hempty

/-- Behind a piece the search begins anew. -/
theorem searched_pass
    (hle : detector.searched ≤ detector.buffer.length)
    (h : detector.nextPiece? encoding atEnd = some (piece, rest)) :
    (detector.pass encoding piece rest).searched = 0 := by
  simp only [nextPiece?] at h
  split at h
  · rename_i found hcut
    cases h
    simp only [cutPiece?, Option.map_eq_some_iff] at hcut
    obtain ⟨index, hindex, hpiece⟩ := hcut
    have hbounds := findLineEnd_bounds hindex
    simp only [Prod.mk.injEq] at hpiece
    obtain ⟨rfl, -⟩ := hpiece
    simp only [pass, Piece.size, List.length_take]
    omega
  · split at h
    · simp only [Option.some.injEq, Prod.mk.injEq] at h
      obtain ⟨rfl, -⟩ := h
      simp only [pass, Piece.size, Piece.unterminated]
      omega
    · simp at h

/-- The outlook begins with the next piece. -/
theorem outlook_of_piece
    (hopen : detector.Open)
    (hsettled : detector.encoding = some encoding)
    (hpiece : detector.nextPiece? encoding atEnd = some (piece, rest))
    {more : Bytes}
    (hmore : atEnd = true → more = []) :
    detector.outlook more =
      (Transcript.ofPieces encoding detector.count detector.state
        (piece :: encoding.pieces (rest ++ more))).ending := by
  rw [outlook_of_settled hsettled,
    pieces_of_nextPiece?_some (hopen.searchedTo _ hsettled) hpiece hmore]

/-- A detector that has just passed a piece is open. -/
theorem Open.passed
    (hopen : detector.Open)
    (hpiece : detector.nextPiece? encoding atEnd = some (piece, rest))
    (state : Scan.State) :
    Open { detector.pass encoding piece rest with state := state } :=
  .of_searched_zero hopen.undecided (searched_pass hopen.searched_le hpiece)

/-- A piece that decides nothing leaves a detector with the same outlook. -/
theorem outlook_of_looked
    {line : List Char}
    {verdict : Scan.Verdict}
    {state : Scan.State}
    (hopen : detector.Open)
    (hsettled : detector.encoding = some encoding)
    (hpiece : detector.nextPiece? encoding atEnd = some (piece, rest))
    (hline : encoding.decodePiece detector.count piece = .ok line)
    (hstep : detector.state.classify line = (verdict, state))
    (hfinal : verdict.isFinal = false)
    {more : Bytes}
    (hmore : atEnd = true → more = []) :
    detector.outlook more =
      Detector.outlook { detector.pass encoding piece rest with state := state } more := by
  have hkept : Detector.encoding { detector.pass encoding piece rest with state := state } =
      some encoding := hsettled
  refine Eq.trans ?_ (outlook_of_settled hkept more).symm
  rw [outlook_of_piece hopen hsettled hpiece hmore, Transcript.ofPieces, hline]
  simp only [hstep, hfinal]
  rfl

/-- A scan either goes on with the same outlook or decides as it was foreseen. -/
theorem scan_outlook
    (hopen : detector.Open)
    (hsettled : detector.encoding = some encoding) :
    Foreseen atEnd detector (detector.scan encoding atEnd) := by
  fun_induction scan detector encoding atEnd with
  | case1 detector hnone hend =>
      left
      refine ⟨.settled .proceed detector.count.number, ended_conclude detector .proceed, ?_⟩
      intro more hmore
      rw [outlook_of_settled hsettled, (cutPiece?_of_nextPiece?_none hnone).2 hend, hmore hend,
        List.append_nil, pieces_nil, Transcript.ofPieces]
  | case2 detector hnone hgoing =>
      -- The whole units that are held back have been searched, and only more bytes can help.
      right
      have hcut := (cutPiece?_of_nextPiece?_none hnone).1
      rw [(hopen.searchedTo _ hsettled).cutPiece?_eq] at hcut
      refine ⟨by simpa using hgoing, ⟨hopen.undecided, Nat.sub_le _ _, ?_, ?_⟩, rfl, fun _ => rfl⟩
      · intro found hfound
        rw [Option.some.inj (hfound.symm.trans hsettled)]
        exact searchedTo_wholeUnits hcut
      · intro hunsettled
        rw [hsettled] at hunsettled
        cases hunsettled
  | case3 detector piece rest hpiece passed error hline =>
      left
      refine ⟨.undecodable error, ⟨rfl, rfl⟩, ?_⟩
      intro more hmore
      rw [outlook_of_piece hopen hsettled hpiece hmore, Transcript.ofPieces, hline]
  | case4 detector piece rest hpiece passed line hline verdict state hstep looked hfinal =>
      left
      refine ⟨.settled verdict passed.count.number, ended_conclude looked verdict, ?_⟩
      intro more hmore
      rw [outlook_of_piece hopen hsettled hpiece hmore, Transcript.ofPieces, hline]
      simp only [hstep, hfinal, if_true]
      rfl
  | case5 detector piece rest hpiece passed line hline verdict state hstep looked hfinal ih =>
      refine (ih (hopen.passed hpiece state) hsettled).of_outlook ?_
      intro more hmore
      exact outlook_of_looked hopen hsettled hpiece hline hstep (by simpa using hfinal) hmore

end Scanning

section Feeding

variable {detector : Detector}

/-- Settling the encoding leaves the outlook alone, once it can be told. -/
theorem outlook_settleEncoding
    {atEnd : Bool}
    (hunsettled : detector.encoding = none)
    (hcan : detector.canSniff atEnd = true)
    {more : Bytes}
    (hmore : atEnd = true → more = []) :
    detector.outlook more = detector.settleEncoding.outlook more := by
  have hsettled : detector.settleEncoding.encoding = some (sniff detector.buffer) := rfl
  rw [outlook_of_settled hsettled, outlook, hunsettled]
  rw [canSniff, Bool.or_eq_true, decide_eq_true_eq] at hcan
  rcases hcan with hend | hlong
  · rw [hmore hend]
    simp only [List.append_nil, documentPieces]
    rfl
  · simp only [sniff_append more hlong, documentPieces_append _ more hlong]
    rfl

theorem Open.settleEncoding
    (hopen : detector.Open)
    (hunsettled : detector.encoding = none) :
    detector.settleEncoding.Open :=
  .of_searched_zero hopen.undecided (hopen.unsearched hunsettled)

/-- Looking at what is held back changes nothing that was not foreseen. -/
theorem advance_outlook
    (hopen : detector.Open)
    (atEnd : Bool) :
    Foreseen atEnd detector (detector.advance atEnd) := by
  rw [advance]
  split
  · rename_i encoding hsettled
    exact scan_outlook hopen hsettled
  · rename_i hunsettled
    split
    · rename_i hcan
      refine (scan_outlook (hopen.settleEncoding hunsettled) rfl).of_outlook ?_
      intro more hmore
      exact outlook_settleEncoding hunsettled hcan hmore
    · rename_i hcannot
      right
      refine ⟨?_, hopen, rfl, fun _ => rfl⟩
      cases atEnd with
      | false => rfl
      | true => exact absurd rfl hcannot

/-- The detector that holds one more chunk and has not looked at it. -/
def receive (detector : Detector) (chunk : Bytes) : Detector :=
  { detector with
    bytesSeen := detector.bytesSeen + chunk.length
    buffer := detector.buffer ++ chunk }

theorem feed_of_undecided
    (h : detector.decision = none)
    (chunk : Bytes) :
    detector.feed chunk = (detector.receive chunk).advance false := by
  rw [feed, isDecided_of_undecided h, if_neg Bool.false_ne_true]
  rfl

theorem Open.receive
    (hopen : detector.Open)
    (chunk : Bytes) :
    (detector.receive chunk).Open where
  undecided := hopen.undecided
  searched_le := by
    have := hopen.searched_le
    simp only [Detector.receive, List.length_append]
    omega
  searchedTo := fun encoding hsettled => (hopen.searchedTo encoding hsettled).append chunk
  unsearched := hopen.unsearched

/-- A chunk moves from what is to come into the detector. -/
theorem feed_outlook
    (hopen : detector.Open)
    (chunk : Bytes) :
    (∃ ending, Ended ending (detector.feed chunk).1 (detector.feed chunk).2 ∧
      ∀ more, detector.outlook (chunk ++ more) = ending) ∨
    ((detector.feed chunk).1.Open ∧ (detector.feed chunk).2 = [] ∧
      ∀ more, detector.outlook (chunk ++ more) = (detector.feed chunk).1.outlook more) := by
  rw [feed_of_undecided hopen.undecided]
  have hlook : ∀ more, detector.outlook (chunk ++ more) = (detector.receive chunk).outlook more := by
    intro more
    simp only [outlook, Detector.receive, List.append_assoc]
  rcases advance_outlook (hopen.receive chunk) false with
    ⟨ending, hended, hforeseen⟩ | ⟨-, hopen', hquiet, hsame⟩
  · left
    refine ⟨ending, hended, ?_⟩
    intro more
    rw [hlook more]
    exact hforeseen more fun hend => absurd hend Bool.false_ne_true
  · right
    exact ⟨hopen', hquiet, fun more => (hlook more).trans (hsame more)⟩

/-- At the end of the input the outlook on nothing more comes true. -/
theorem finish_outlook
    (hopen : detector.Open) :
    Ended (detector.outlook []) detector.finish.1 detector.finish.2 := by
  rw [finish_of_undecided (isDecided_of_undecided hopen.undecided)]
  rcases advance_outlook hopen true with ⟨ending, hended, hforeseen⟩ | ⟨hgoing, -⟩
  · rw [hforeseen [] fun _ => rfl]
    exact hended
  · cases hgoing

end Feeding

section Runs

/-- The detector after chunks in turn, and all that it told its observer meanwhile. -/
def feedAll (detector : Detector) : List Bytes → Detector × List Event
  | [] => (detector, [])
  | chunk :: chunks =>
      let first := detector.feed chunk
      let others := first.1.feedAll chunks
      (others.1, first.2 ++ others.2)

/-- A new detector after chunks in turn and the end of the input, and all that it told. -/
def feedThenFinish (chunks : List Bytes) : Detector × List Event :=
  let fed := fresh.feedAll chunks
  let finished := fed.1.finish
  (finished.1, fed.2 ++ finished.2)

theorem Ended.isDecided
    {ending : Ending}
    {detector : Detector}
    {events : List Event}
    (h : Ended ending detector events) :
    detector.isDecided = true := by
  rw [Detector.isDecided, h.decision]
  rfl

/-- A detector that has decided is not changed by any number of chunks. -/
theorem feedAll_of_decided
    {detector : Detector}
    (h : detector.isDecided = true)
    (chunks : List Bytes) :
    detector.feedAll chunks = (detector, []) := by
  induction chunks with
  | nil =>
      rfl
  | cons chunk chunks ih =>
      simp only [feedAll, feed_of_decided h, ih, List.append_nil]

/-- Chunks in turn move from what is to come into the detector. -/
theorem feedAll_outlook
    {detector : Detector}
    (hopen : detector.Open)
    (chunks : List Bytes) :
    (∃ ending, Ended ending (detector.feedAll chunks).1 (detector.feedAll chunks).2 ∧
      ∀ more, detector.outlook (chunks.flatten ++ more) = ending) ∨
    ((detector.feedAll chunks).1.Open ∧ (detector.feedAll chunks).2 = [] ∧
      ∀ more, detector.outlook (chunks.flatten ++ more) =
        (detector.feedAll chunks).1.outlook more) := by
  induction chunks generalizing detector with
  | nil =>
      right
      exact ⟨hopen, rfl, fun _ => rfl⟩
  | cons chunk chunks ih =>
      simp only [feedAll, List.flatten_cons, List.append_assoc]
      rcases feed_outlook hopen chunk with ⟨ending, hended, hlook⟩ | ⟨hopen', hquiet, hlook⟩
      · left
        refine ⟨ending, ?_, fun more => hlook _⟩
        rw [feedAll_of_decided hended.isDecided, List.append_nil]
        exact hended
      · rw [hquiet, List.nil_append]
        simp only [hlook]
        exact ih hopen'

/-- A run over chunks comes to the end that the document says. -/
theorem feedThenFinish_of_flatten
    {document : Bytes}
    {chunks : List Bytes}
    (hchunks : chunks.flatten = document) :
    Ended (transcript document).ending (feedThenFinish chunks).1 (feedThenFinish chunks).2 := by
  subst hchunks
  have hfresh := outlook_fresh chunks.flatten
  rcases feedAll_outlook open_fresh chunks with ⟨ending, hended, hlook⟩ | ⟨hopen, hquiet, hlook⟩
  · have hlast := hlook []
    rw [List.append_nil, hfresh] at hlast
    rw [feedThenFinish, finish_of_decided hended.decision, List.append_nil, hlast]
    exact ⟨rfl, hended.events⟩
  · have hlast := hlook []
    rw [List.append_nil, hfresh] at hlast
    rw [feedThenFinish, hquiet, List.nil_append, hlast]
    exact finish_outlook hopen

/-- A detector that was fed chunks comes to the mode that all of them together say. -/
theorem answer_feedThenFinish (chunks : List Bytes) :
    (feedThenFinish chunks).1.answer = (transcript chunks.flatten).ending.mode := by
  rw [answer, (feedThenFinish_of_flatten (rfl : chunks.flatten = _)).decision]
  rfl

/-- **Pushing agrees with pulling.**  However a document is cut into chunks for a detector, and
however it is delivered to a reader, both come to the end that the document says and tell of it
once: with the same verdict after the same number of lines, or with the same line that is not
text. -/
theorem push_agrees_with_pull
    {document : Bytes}
    {chunks : List Bytes}
    {source : Source}
    (hchunks : chunks.flatten = document)
    (hsource : source.Delivers document)
    (capacity : Nat) :
    (detect source capacity).outcome = .ok (feedThenFinish chunks).1.answer ∧
      (feedThenFinish chunks).1.answer = (transcript document).ending.mode ∧
      (feedThenFinish chunks).2 =
        [(transcript document).ending.event (.bytes (feedThenFinish chunks).1.bytesSeen)] ∧
      (detect source capacity).events.filter (·.level == .debug) =
        [(transcript document).ending.event (.encoding (some (Encoding.sniff document)))] := by
  obtain ⟨houtcome, hevents⟩ := detect_of_delivers hsource capacity
  obtain ⟨hdecision, htold⟩ := feedThenFinish_of_flatten hchunks
  have hanswer : (feedThenFinish chunks).1.answer = (transcript document).ending.mode := by
    rw [answer, hdecision]
    rfl
  refine ⟨by rw [houtcome, hanswer], hanswer, htold, ?_⟩
  rw [hevents]
  exact filter_debug_looked _ _ _ _ _

theorem push_agrees_with_pull_across_pair :
    (feedThenFinish [[0xEF, 0xBB], [], [0xBF, 0x0D], [0x0A, 0x3C], [0x72]]).1.answer = .xsd ∧
      (detect ⟨[.bytes [0xEF], .bytes [0xBB, 0xBF, 0x0D, 0x0A, 0x3C, 0x72]], []⟩ 1).outcome =
        .ok .xsd := by
  have hchunks : [[0xEF, 0xBB], [], [0xBF, 0x0D], [0x0A, 0x3C], [0x72]].flatten =
      ([0xEF, 0xBB, 0xBF, 0x0D, 0x0A, 0x3C, 0x72] : Bytes) := by
    decide
  have hsource : Source.Delivers ⟨[.bytes [0xEF], .bytes [0xBB, 0xBF, 0x0D, 0x0A, 0x3C, 0x72]], []⟩
      [0xEF, 0xBB, 0xBF, 0x0D, 0x0A, 0x3C, 0x72] := by
    decide
  have hanswer : (feedThenFinish
      [[0xEF, 0xBB], [], [0xBF, 0x0D], [0x0A, 0x3C], [0x72]]).1.answer = .xsd := by
    decide +kernel
  refine ⟨hanswer, ?_⟩
  rw [(push_agrees_with_pull hchunks hsource 1).1, hanswer]

end Runs

end Detector
end Detection
end XmlPreamble
