import XmlPreamble.Proofs.PushDetection

/-!
# Feeding in parts is feeding at once

Between two chunks a detector is at rest: the bytes it holds are too few to tell the encoding, or
there is no terminator among them and the whole units of them have been searched.  This is all that
the bytes so far leave behind, so that two chunks in turn do to a detector what the two of them do
as one chunk, whether the cut lies within a byte order mark, a code unit, a terminator or a comment.

Main statements:

- `scan_receive` and `advance_receive`: bytes that arrive behind a scan are looked at as if they had
  been there before it;
- `Reachable.isDecided_or_atRest`: a detector between two calls has decided or is at rest;
- `feed_append` and `feed_in_parts`: a chunk may be cut anywhere;
- `Reachable.feedAll_eq_feed_flatten`: chunks in turn do what all of them do as one.
-/

namespace XmlPreamble
namespace Detection
namespace Detector

open Encoding

section OneStep

variable {detector : Detector}
variable {encoding : Encoding}
variable {atEnd : Bool}
variable {piece : Piece}
variable {rest : Bytes}

/-- A scan that finds no piece marks what it has searched. -/
theorem scan_of_none
    (h : detector.nextPiece? encoding false = none) :
    detector.scan encoding false =
      ({ detector with searched := encoding.wholeUnits detector.buffer.length }, []) := by
  rw [scan]
  split
  · rfl
  · rename_i hsome
    rw [h] at hsome
    cases hsome

/-- A scan that finds a piece looks at it, and goes on unless it decides. -/
theorem scan_of_some
    (h : detector.nextPiece? encoding atEnd = some (piece, rest)) :
    detector.scan encoding atEnd =
      match encoding.decodePiece detector.count piece with
      | .error error => (detector.pass encoding piece rest).giveUp error
      | .ok line =>
          let looked :=
            { detector.pass encoding piece rest with state := (detector.state.classify line).2 }
          if (detector.state.classify line).1.isFinal then
            looked.conclude (detector.state.classify line).1
          else
            looked.scan encoding atEnd := by
  rw [scan]
  split
  · rename_i hnone
    rw [h] at hnone
    cases hnone
  · rename_i found others hsome
    rw [h] at hsome
    cases hsome
    rfl

end OneStep

section Receiving

variable {detector : Detector}
variable {encoding : Encoding}

@[simp] theorem receive_nil (detector : Detector) : detector.receive [] = detector := by
  simp [receive]

theorem receive_receive
    (detector : Detector)
    (first second : Bytes) :
    (detector.receive first).receive second = detector.receive (first ++ second) := by
  simp [receive, Nat.add_assoc]

theorem nextPiece?_of_going (detector : Detector) (encoding : Encoding) :
    detector.nextPiece? encoding false =
      encoding.cutPiece? detector.buffer detector.searched := by
  rw [nextPiece?]
  split
  · rename_i found hcut
    exact hcut.symm
  · rename_i hcut
    exact hcut.symm

/-- A piece that a terminator ends is not changed by what arrives behind it. -/
theorem nextPiece?_receive
    {piece : Piece}
    {rest : Bytes}
    (hsearched : encoding.SearchedTo detector.buffer detector.searched)
    (h : detector.nextPiece? encoding false = some (piece, rest))
    (more : Bytes) :
    (detector.receive more).nextPiece? encoding false = some (piece, rest ++ more) := by
  rw [nextPiece?_of_going, hsearched.cutPiece?_eq] at h
  rw [nextPiece?_of_going]
  have hall : encoding.cutPiece? (detector.receive more).buffer (detector.receive more).searched =
      encoding.cutPiece? (detector.buffer ++ more) 0 :=
    (hsearched.append more).cutPiece?_eq
  rw [hall, cutPiece?_append more h]

/-- It makes no difference to a scan where a search in vain left off. -/
theorem scan_searched_zero
    (hopen : detector.Open)
    (hsettled : detector.encoding = some encoding) :
    detector.scan encoding false =
      Detector.scan { detector with searched := 0 } encoding false := by
  have hcut := (hopen.searchedTo _ hsettled).cutPiece?_eq
  have hsame : detector.nextPiece? encoding false =
      Detector.nextPiece? { detector with searched := 0 } encoding false := by
    rw [nextPiece?_of_going, nextPiece?_of_going, hcut]
  cases hpiece : detector.nextPiece? encoding false with
  | none =>
      rw [scan_of_none hpiece, scan_of_none (hsame.symm.trans hpiece)]
  | some found =>
      have hzero := searched_pass hopen.searched_le hpiece
      have hpass : detector.pass encoding found.1 found.2 =
          Detector.pass { detector with searched := 0 } encoding found.1 found.2 := by
        simp only [pass] at hzero ⊢
        rw [hzero, Nat.zero_sub]
      rw [scan_of_some hpiece, scan_of_some (hsame.symm.trans hpiece), hpass]

end Receiving

section Rest

variable {detector : Detector}
variable {encoding : Encoding}

/-- A detector between two chunks: it is too early to tell the encoding, or there is no terminator
among the bytes held back and their whole units have been searched. -/
structure AtRest (detector : Detector) : Prop where
  undecided : detector.decision = none
  waiting : detector.encoding = none →
    detector.buffer.length < sniffLength ∧ detector.searched = 0
  searched : ∀ encoding, detector.encoding = some encoding →
    encoding.cutPiece? detector.buffer 0 = none ∧
      detector.searched = encoding.wholeUnits detector.buffer.length

theorem atRest_fresh : fresh.AtRest := by
  refine ⟨rfl, fun _ => ⟨by decide, rfl⟩, ?_⟩
  intro encoding hsettled
  cases hsettled

theorem AtRest.isOpen (hrest : detector.AtRest) : detector.Open := by
  refine ⟨hrest.undecided, ?_, ?_, fun hunsettled => (hrest.waiting hunsettled).2⟩
  · cases hsettled : detector.encoding with
    | none =>
        rw [(hrest.waiting hsettled).2]
        exact Nat.zero_le _
    | some encoding =>
        rw [(hrest.searched encoding hsettled).2]
        exact Nat.sub_le _ _
  · intro encoding hsettled
    obtain ⟨hcut, hsearched⟩ := hrest.searched encoding hsettled
    rw [hsearched]
    exact searchedTo_wholeUnits hcut

/-- An empty chunk finds nothing to look at. -/
theorem AtRest.feed_nil (hrest : detector.AtRest) : detector.feed [] = (detector, []) := by
  rw [feed_of_undecided hrest.undecided, receive_nil, advance]
  cases hsettled : detector.encoding with
  | none =>
      have hshort := (hrest.waiting hsettled).1
      simp only [canSniff, Bool.false_or, decide_eq_true_eq]
      rw [if_neg (by omega)]
  | some encoding =>
      obtain ⟨hcut, hsearched⟩ := hrest.searched encoding hsettled
      have hpiece : detector.nextPiece? encoding false = none := by
        rw [nextPiece?_of_going, (hrest.isOpen.searchedTo encoding hsettled).cutPiece?_eq, hcut]
      simp only
      rw [scan_of_none hpiece, ← hsearched]

end Rest

section Scanning

variable {detector : Detector}
variable {encoding : Encoding}

theorem advance_of_settled
    {encoding : Encoding}
    {atEnd : Bool}
    (hsettled : detector.encoding = some encoding) :
    detector.advance atEnd = detector.scan encoding atEnd := by
  rw [advance, hsettled]

theorem advance_of_sniffed
    (hunsettled : detector.encoding = none)
    (hlong : sniffLength ≤ detector.buffer.length) :
    detector.advance false = detector.settleEncoding.scan (sniff detector.buffer) false := by
  rw [advance, hunsettled]
  simp only [canSniff, Bool.false_or, decide_eq_true_eq]
  rw [if_pos hlong]

theorem advance_of_short
    (hunsettled : detector.encoding = none)
    (hshort : detector.buffer.length < sniffLength) :
    detector.advance false = (detector, []) := by
  rw [advance, hunsettled]
  simp only [canSniff, Bool.false_or, decide_eq_true_eq]
  rw [if_neg (by omega)]

/-- Bytes that arrive behind a scan are looked at as if they had been there before it, unless the
scan has decided and they are dropped. -/
theorem scan_receive
    (hopen : detector.Open)
    (hsettled : detector.encoding = some encoding)
    (more : Bytes) :
    let first := (detector.scan encoding false).1
    (first.isDecided = true ∧
      ((detector.receive more).scan encoding false).1 =
        { first with bytesSeen := first.bytesSeen + more.length }) ∨
    (first.AtRest ∧
      (detector.receive more).scan encoding false = (first.receive more).advance false) := by
  fun_induction scan detector encoding false with
  | case1 detector hnone hend =>
      cases hend
  | case2 detector hnone hgoing =>
      right
      have hcut := (cutPiece?_of_nextPiece?_none hnone).1
      rw [(hopen.searchedTo _ hsettled).cutPiece?_eq] at hcut
      have hrest : AtRest
          { detector with searched := encoding.wholeUnits detector.buffer.length } := by
        refine ⟨hopen.undecided, ?_, ?_⟩
        · intro hunsettled
          rw [hsettled] at hunsettled
          cases hunsettled
        · intro found hfound
          cases hfound.symm.trans hsettled
          exact ⟨hcut, rfl⟩
      have hlater : Detector.encoding (receive
          { detector with searched := encoding.wholeUnits detector.buffer.length } more) =
            some encoding := hsettled
      refine ⟨hrest, ?_⟩
      rw [advance_of_settled hlater, scan_searched_zero (hopen.receive more) hsettled,
        scan_searched_zero (hrest.isOpen.receive more) hlater]
      rfl
  | case3 detector piece rest hpiece passed error hline =>
      left
      have hmore := nextPiece?_receive (hopen.searchedTo _ hsettled) hpiece more
      have hline' : encoding.decodePiece (detector.receive more).count piece = .error error := hline
      refine ⟨rfl, ?_⟩
      rw [scan_of_some hmore, hline']
      rfl
  | case4 detector piece rest hpiece passed line hline verdict state hstep looked hfinal =>
      left
      have hmore := nextPiece?_receive (hopen.searchedTo _ hsettled) hpiece more
      have hline' : encoding.decodePiece (detector.receive more).count piece = .ok line := hline
      have hstep' : (detector.receive more).state.classify line = (verdict, state) := hstep
      refine ⟨rfl, ?_⟩
      rw [scan_of_some hmore, hline']
      simp only [hstep', hfinal, if_true]
      rfl
  | case5 detector piece rest hpiece passed line hline verdict state hstep looked hfinal ih =>
      have hmore := nextPiece?_receive (hopen.searchedTo _ hsettled) hpiece more
      have hline' : encoding.decodePiece (detector.receive more).count piece = .ok line := hline
      have hstep' : (detector.receive more).state.classify line = (verdict, state) := hstep
      have hnext : (detector.receive more).scan encoding false =
          (looked.receive more).scan encoding false := by
        rw [scan_of_some hmore, hline']
        simp only [hstep', hfinal]
        rfl
      rw [hnext]
      exact ih (hopen.passed hpiece state) hsettled

end Scanning

section Feeding

variable {detector : Detector}

/-- The first three bytes settle the encoding whether or not more of them are there. -/
theorem settleEncoding_receive
    (hlong : sniffLength ≤ detector.buffer.length)
    (more : Bytes) :
    (detector.receive more).settleEncoding = detector.settleEncoding.receive more := by
  have hmark := (sniff detector.buffer).signatureLength_le_length detector.buffer
  simp only [settleEncoding, Detector.receive, sniff_append more hlong,
    signatureLength_append _ more hlong, List.drop_append_of_le_length hmark]

/-- Bytes that arrive behind a look at what is held back are looked at as if they had been there
before it, unless they are dropped. -/
theorem advance_receive
    (hopen : detector.Open)
    (more : Bytes) :
    let first := (detector.advance false).1
    (first.isDecided = true ∧
      ((detector.receive more).advance false).1 =
        { first with bytesSeen := first.bytesSeen + more.length }) ∨
    (first.AtRest ∧
      (detector.receive more).advance false = (first.receive more).advance false) := by
  cases hsettled : detector.encoding with
  | some encoding =>
      have hkept : (detector.receive more).encoding = some encoding := hsettled
      rw [advance_of_settled hsettled, advance_of_settled hkept]
      exact scan_receive hopen hsettled more
  | none =>
      have hunsettled : (detector.receive more).encoding = none := hsettled
      by_cases hlong : sniffLength ≤ detector.buffer.length
      · have hlonger : sniffLength ≤ (detector.receive more).buffer.length := by
          simp only [Detector.receive, List.length_append]
          omega
        have hsniff : sniff (detector.receive more).buffer = sniff detector.buffer :=
          sniff_append more hlong
        rw [advance_of_sniffed hsettled hlong, advance_of_sniffed hunsettled hlonger,
          settleEncoding_receive hlong, hsniff]
        exact scan_receive (hopen.settleEncoding hsettled) rfl more
      · have hshort : detector.buffer.length < sniffLength := by omega
        rw [advance_of_short hsettled hshort]
        refine Or.inr ⟨⟨hopen.undecided, fun _ => ⟨hshort, hopen.unsearched hsettled⟩, ?_⟩, rfl⟩
        intro encoding hfound
        rw [hsettled] at hfound
        cases hfound

/-- A chunk that decides nothing leaves a detector at rest. -/
theorem feed_atRest
    (hopen : detector.Open)
    {chunk : Bytes}
    (h : (detector.feed chunk).1.isDecided = false) :
    (detector.feed chunk).1.AtRest := by
  rw [feed_of_undecided hopen.undecided] at h ⊢
  rcases advance_receive (hopen.receive chunk) [] with ⟨hdecided, -⟩ | ⟨hrest, -⟩
  · rw [hdecided] at h
    cases h
  · exact hrest

/-- A chunk may be cut anywhere: its parts in turn leave a detector as the whole of it does. -/
theorem feed_append
    (hopen : detector.Open)
    (first second : Bytes) :
    let once := detector.feed (first ++ second)
    let before := (detector.feed first).1
    (before.isDecided = true ∧ before.feed second = (before, []) ∧
      once.1 = { before with bytesSeen := before.bytesSeen + second.length }) ∨
    (before.isDecided = false ∧ before.feed second = once) := by
  simp only [feed_of_undecided hopen.undecided, ← receive_receive]
  rcases advance_receive (hopen.receive first) second with ⟨hdecided, honce⟩ | ⟨hrest, honce⟩
  · exact Or.inl ⟨hdecided, feed_of_decided hdecided second, honce⟩
  · refine Or.inr ⟨isDecided_of_undecided hrest.undecided, ?_⟩
    rw [feed_of_undecided hrest.undecided, honce]

end Feeding

section Reachable

variable {detector : Detector}

/-- The detectors that calls can leave behind. -/
inductive Reachable : Detector → Prop
  | fresh :
      Reachable fresh
  | feed
      {detector : Detector}
      (chunk : Bytes)
      (before : Reachable detector) :
      Reachable (detector.feed chunk).1
  | finish
      {detector : Detector}
      (before : Reachable detector) :
      Reachable detector.finish.1

/-- A detector between two calls has decided or is at rest. -/
theorem Reachable.isDecided_or_atRest
    (h : Reachable detector) :
    detector.isDecided = true ∨ detector.AtRest := by
  induction h with
  | fresh =>
      exact Or.inr atRest_fresh
  | feed chunk _ ih =>
      rcases ih with hdecided | hrest
      · rw [feed_of_decided hdecided]
        exact Or.inl hdecided
      · rename_i before _
        cases hafter : (before.feed chunk).1.isDecided with
        | true =>
            exact Or.inl rfl
        | false =>
            exact Or.inr (feed_atRest hrest.isOpen hafter)
  | finish _ _ =>
      exact Or.inl (finish_isDecided _)

theorem Reachable.feed_nil
    (h : Reachable detector) :
    detector.feed [] = (detector, []) := by
  rcases h.isDecided_or_atRest with hdecided | hrest
  · exact feed_of_decided hdecided []
  · exact hrest.feed_nil

/-- The parts of a chunk in turn leave all of a detector but its count of bytes as the whole of the
chunk does. -/
theorem Reachable.feed_feed
    (h : Reachable detector)
    (first second : Bytes) :
    let twice := ((detector.feed first).1.feed second).1
    twice = { (detector.feed (first ++ second)).1 with bytesSeen := twice.bytesSeen } := by
  intro twice
  rcases h.isDecided_or_atRest with hdecided | hrest
  · have hsame : twice = detector := by
      simp only [twice, feed_of_decided hdecided]
    rw [hsame, feed_of_decided hdecided]
  · rcases feed_append hrest.isOpen first second with ⟨-, hdropped, honce⟩ | ⟨-, hwhole⟩
    · simp only [twice, hdropped, honce]
    · simp only [twice, hwhole]

/-- Chunks in turn leave all of a detector but its count of bytes as they do in one. -/
theorem Reachable.feedAll_eq_feed_flatten
    (h : Reachable detector)
    (chunks : List Bytes) :
    (detector.feedAll chunks).1 =
      { (detector.feed chunks.flatten).1 with
        bytesSeen := (detector.feedAll chunks).1.bytesSeen } := by
  induction chunks generalizing detector with
  | nil =>
      rw [List.flatten_nil, h.feed_nil]
      rfl
  | cons chunk chunks ih =>
      have hrest := ih (h.feed chunk)
      have hparts := h.feed_feed chunk chunks.flatten
      simp only [feedAll, List.flatten_cons]
      rw [hrest, hparts]

/-- **A chunk may be cut anywhere.**  Its two parts in turn leave a detector as the whole of it
does, and with the same answer; only the second part is not counted if the first one decides. -/
theorem feed_in_parts
    (h : Reachable detector)
    (first second : Bytes) :
    let before := (detector.feed first).1
    let twice := (before.feed second).1
    let once := (detector.feed (first ++ second)).1
    twice = { once with bytesSeen := twice.bytesSeen } ∧
      (before.decision = none → before.feed second = detector.feed (first ++ second)) ∧
      detector.feed [] = (detector, []) ∧
      ∀ mode, before.decision = some mode → once.decision = some mode := by
  intro before twice once
  refine ⟨h.feed_feed first second, ?_, h.feed_nil, ?_⟩
  · intro hundecided
    rcases h.isDecided_or_atRest with hdecided | hrest
    · simp only [before, feed_of_decided hdecided]
    · rcases feed_append hrest.isOpen first second with ⟨hdecided, -⟩ | ⟨-, hwhole⟩
      · rw [isDecided, hundecided] at hdecided
        cases hdecided
      · exact hwhole
  · intro mode hmode
    have hdecided : before.isDecided = true := by
      rw [isDecided, hmode]
      rfl
    have hsame : twice = before := by
      simp only [twice, feed_of_decided hdecided]
    have hparts : twice = { once with bytesSeen := twice.bytesSeen } := h.feed_feed first second
    rw [hsame] at hparts
    rw [← hmode, hparts]

theorem feed_in_parts_across_pair :
    let detector := (fresh.feed [0x3C, 0x3F, 0x0D]).1
    let before := (detector.feed [0x0A, 0x3C]).1
    detector.Reachable ∧ before.decision = none ∧ (before.feed [0x72, 0x0A]).1.decision = some .xsd ∧
      (before.feed [0x72, 0x0A]).1.count.number = 2 ∧
      before.feed [0x72, 0x0A] = detector.feed [0x0A, 0x3C, 0x72, 0x0A] := by
  intro detector before
  have hreachable : detector.Reachable := Reachable.fresh.feed _
  have hundecided : before.decision = none := by
    decide +kernel
  have hmode : (before.feed [0x72, 0x0A]).1.decision = some .xsd := by
    decide +kernel
  have hnumber : (before.feed [0x72, 0x0A]).1.count.number = 2 := by
    decide +kernel
  refine ⟨hreachable, hundecided, hmode, hnumber, ?_⟩
  exact (feed_in_parts hreachable [0x0A, 0x3C] [0x72, 0x0A]).2.1 hundecided

end Reachable

end Detector
end Detection
end XmlPreamble
