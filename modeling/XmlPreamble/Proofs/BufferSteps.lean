import Mathlib
import XmlPreamble.Proofs.LineNumbers

/-!
# The steps of a line reader

A line reader keeps the bytes between two places of its buffer, asks its source for as many as fit
behind them, and doubles the buffer when nothing fits.  Here the work of a reader is taken apart
into steps: it asks the source once, it settles the encoding and passes over the byte order mark, or
it passes over a line.  Every call for a line is a chain of such steps, also a call that hands on a
failure, and what one step keeps of the buffer is kept by all of them.

Main statements:

- `Source.calls_readThrough`: the record that a repeated call leaves behind;
- `LineReader.Step.sound`: what one step does to the buffer;
- `LineReader.Step.withinBuffer` and `LineReader.withinBuffer_of_steps`: the unread bytes lie within
  the buffer, which is as long as at the beginning, doubled a number of times;
- `LineReader.steps_nextLine`: a call for a line is a chain of steps.
-/

namespace XmlPreamble

namespace Source

section Records

variable {source next : Source}
variable {offered : Nat}

/-- How the record of a call tells its end. -/
def outcomeOf : Except IoError Bytes → CallOutcome
  | .ok data => .delivered data.length
  | .error error => .failed error.kind

/-- The bytes that an answer brings. -/
def arrived : Except IoError Bytes → Bytes
  | .ok data => data
  | .error _ => []

theorem calls_read
    (source : Source)
    (offered : Nat) :
    (source.read offered).2.calls =
      ⟨offered, outcomeOf (source.read offered).1⟩ :: source.calls := by
  rcases source with ⟨_ | ⟨_ | _, script⟩, calls⟩ <;> rfl

/-- A repeated call is recorded with the room that it offers, and if there is room, a call that
brings nothing has come to the end of the input. -/
theorem calls_readThrough
    {answer : Except IoError Bytes}
    (h : source.readThrough offered = (answer, next)) :
    ∃ made,
      next.calls = made ++ source.calls ∧
        (∀ call ∈ made, call.offered = offered) ∧
        (0 < offered → ∀ call ∈ made, call.outcome = .delivered 0 →
          upcoming source.script = [] ∧ obstacle? source.script = none) := by
  fun_induction readThrough source offered with
  | case1 source error after hread hkind ih =>
      obtain ⟨made, hcalls, hoffered, hend⟩ := ih h
      have hrecord := calls_read source offered
      rw [hread] at hrecord
      refine ⟨made ++ [⟨offered, .failed error.kind⟩], ?_, ?_, ?_⟩
      · rw [hcalls, hrecord, List.append_assoc]
        rfl
      · intro call hcall
        rcases List.mem_append.1 hcall with hcall | hcall
        · exact hoffered call hcall
        · rw [List.mem_singleton.1 hcall]
      · intro hroom call hcall hnothing
        rw [read_error hread, upcoming, obstacle?, if_pos hkind, if_pos hkind]
        rcases List.mem_append.1 hcall with hcall | hcall
        · exact hend hroom call hcall hnothing
        · rw [List.mem_singleton.1 hcall] at hnothing
          cases hnothing
  | case2 source error after hread hkind =>
      have hrecord := calls_read source offered
      rw [hread] at hrecord
      cases h
      refine ⟨[⟨offered, .failed error.kind⟩], hrecord, ?_, ?_⟩
      · intro call hcall
        rw [List.mem_singleton.1 hcall]
      · intro _ call hcall hnothing
        rw [List.mem_singleton.1 hcall] at hnothing
        cases hnothing
  | case3 source data after hread =>
      have hrecord := calls_read source offered
      rw [hread] at hrecord
      cases h
      refine ⟨[⟨offered, .delivered data.length⟩], hrecord, ?_, ?_⟩
      · intro call hcall
        rw [List.mem_singleton.1 hcall]
      · intro hroom call hcall hnothing
        rw [List.mem_singleton.1 hcall] at hnothing
        have hempty : data.length = 0 := CallOutcome.delivered.inj hnothing
        rw [List.eq_nil_of_length_eq_zero hempty] at hread
        exact read_nil hroom hread

theorem length_arrived_le
    {answer : Except IoError Bytes}
    (h : source.readThrough offered = (answer, next)) :
    (arrived answer).length ≤ offered := by
  rcases answer with _ | data
  · exact Nat.zero_le _
  · exact length_readThrough_le h

end Records

end Source

namespace LineReader

open Encoding Detection

section Specification

/-- The place in the buffer behind the unread bytes. -/
def stop (reader : LineReader) : Nat :=
  reader.start + reader.unread.length

/-- The reader that has passed over a number of unread bytes, or over all of them if there are
fewer. -/
def consume (reader : LineReader) (amount : Nat) : LineReader :=
  { reader with
    start := reader.start + min amount (reader.stop - reader.start)
    unread := reader.unread.drop amount }

/-- What a reader needs more bytes for: they are too few to tell the encoding, or none of the unread
lines is complete. -/
def Lacks (reader : LineReader) : Prop :=
  match reader.encoding with
  | none => reader.unread.length < sniffLength
  | some encoding => encoding.completePieces reader.unread = []

/-- The first of the unread lines, or all that is unread. -/
def IsFirst (encoding : Encoding) (unread : Bytes) (piece : Piece) (rest : Bytes) : Prop :=
  encoding.cutPiece? unread 0 = some (piece, rest) ∨ piece = .unterminated unread ∧ rest = []

/-- One step of a reader on its way through a call for a line. -/
inductive Step (reader : LineReader) : LineReader → Prop
  | refill
      (hlacks : reader.Lacks) :
      Step reader reader.fill.2
  | settle
      (hunsettled : reader.encoding = none) :
      Step reader reader.settleEncoding
  | pass
      {encoding : Encoding}
      {piece : Piece}
      {rest : Bytes}
      (hsettled : reader.encoding = some encoding)
      (hfirst : IsFirst encoding reader.unread piece rest) :
      Step reader (reader.pass encoding piece rest)

/-- The unread bytes lie within the buffer, which has been doubled a number of times, and the source
has never been asked without room. -/
structure WithinBuffer (capacity : Nat) (reader : LineReader) : Prop where
  start_le : reader.start ≤ reader.stop
  stop_le : reader.stop ≤ reader.size
  doubled : ∃ doublings, reader.size = max capacity sniffLength * 2 ^ doublings
  offered_pos : ∀ call ∈ reader.source.calls, 0 < call.offered

/-- What one step does to the buffer. -/
structure SoundStep (reader next : LineReader) : Prop where
  /-- The source is asked for what fits behind the unread bytes, which is something, and it brings
  nothing only at the end of the input. -/
  reads : ∃ made,
    next.source.calls = made ++ reader.source.calls ∧
      ∀ call ∈ made,
        call.offered = next.size - reader.unread.length ∧ 0 < call.offered ∧
          (call.outcome = .delivered 0 →
            reader.ahead = reader.unread ∧ reader.obstacle? = none)
  /-- The buffer is doubled only when it is full and no line in it is complete. -/
  grows : next.size = reader.size ∨
    next.size = 2 * reader.size ∧ reader.unread.length = reader.size ∧
      ∃ encoding, reader.encoding = some encoding ∧ encoding.completePieces reader.unread = []
  /-- Bytes arrive behind the unread ones, or no more than the unread ones are passed over. -/
  moves : (∃ bytes, next.unread = reader.unread ++ bytes) ∨
    ∃ amount, amount ≤ reader.unread.length ∧
      next.start = reader.start + amount ∧
      next.start = (reader.consume amount).start ∧ next.unread = (reader.consume amount).unread

/-- The reader after a number of calls for a line. -/
def afterCalls (reader : LineReader) : Nat → LineReader
  | 0 => reader
  | count + 1 => (reader.afterCalls count).nextLine.2

end Specification

section Filling

variable {reader : LineReader}

/-- A refill makes room, asks the source and puts what arrives behind the unread bytes. -/
theorem fill_of_open
    {answer : Except IoError Bytes}
    {source : Source}
    (hopen : reader.exhausted = false)
    (hread : reader.source.readThrough (reader.makeRoom.size - reader.unread.length) =
      (answer, source)) :
    ∃ ended, reader.fill.2 =
      { reader.makeRoom with
        source := source
        unread := reader.unread ++ Source.arrived answer
        exhausted := ended } := by
  have hclosed : ¬reader.exhausted = true := by simp [hopen]
  rw [fill, if_neg hclosed]
  simp only [source_makeRoom, unread_makeRoom, hread]
  rcases answer with error | _ | ⟨byte, more⟩
  · refine ⟨reader.exhausted, ?_⟩
    simp only [Source.arrived, List.append_nil]
    rfl
  · refine ⟨true, ?_⟩
    simp only [Source.arrived, List.append_nil]
  · exact ⟨reader.exhausted, rfl⟩

/-- Nothing happens in a refill at the end of the input. -/
theorem fill_of_exhausted
    (hclosed : reader.exhausted = true) :
    reader.fill.2 = reader := by
  rw [fill, if_pos hclosed]

theorem encoding_fill
    (reader : LineReader) :
    reader.fill.2.encoding = reader.encoding := by
  cases hexhausted : reader.exhausted with
  | true => rw [fill_of_exhausted hexhausted]
  | false =>
      obtain ⟨ended, hfill⟩ := fill_of_open hexhausted rfl
      rw [hfill]
      rfl

theorem exists_unread_fill
    (reader : LineReader) :
    ∃ bytes, reader.fill.2.unread = reader.unread ++ bytes := by
  cases hexhausted : reader.exhausted with
  | true =>
      rw [fill_of_exhausted hexhausted]
      exact ⟨[], (List.append_nil _).symm⟩
  | false =>
      obtain ⟨ended, hfill⟩ := fill_of_open hexhausted rfl
      rw [hfill]
      exact ⟨_, rfl⟩

/-- A refill doubles the buffer if it is full, and leaves its length as it is otherwise. -/
theorem size_fill
    (reader : LineReader) :
    reader.fill.2.size = reader.size ∨
      reader.fill.2.size = 2 * reader.size ∧ reader.unread.length = reader.size := by
  cases hexhausted : reader.exhausted with
  | true =>
      rw [fill_of_exhausted hexhausted]
      exact Or.inl rfl
  | false =>
      obtain ⟨ended, hfill⟩ := fill_of_open hexhausted rfl
      rw [hfill]
      simp only [makeRoom, grownSize]
      split
      · rename_i hfull
        exact Or.inr ⟨Nat.mul_comm _ _, hfull⟩
      · exact Or.inl rfl

end Filling

section OneStep

variable {capacity : Nat}
variable {reader next : LineReader}

theorem stop_sub_start
    (reader : LineReader) :
    reader.stop - reader.start = reader.unread.length := by
  rw [stop, Nat.add_sub_cancel_left]

theorem WithinBuffer.sniffLength_le
    (h : reader.WithinBuffer capacity) :
    sniffLength ≤ reader.size := by
  obtain ⟨doublings, hsize⟩ := h.doubled
  have hpow : 1 ≤ 2 ^ doublings := Nat.one_le_two_pow
  rw [hsize]
  exact Nat.le_trans (Nat.le_max_right capacity sniffLength) (Nat.le_mul_of_pos_right _ hpow)

theorem WithinBuffer.sized
    (h : reader.WithinBuffer capacity) :
    reader.Sized where
  size_pos := Nat.lt_of_lt_of_le (by decide) h.sniffLength_le
  unread_le := Nat.le_trans (Nat.le_add_left _ _) h.stop_le

theorem withinBuffer_ofSource
    (script : List Delivery)
    (capacity : Nat) :
    (ofSource ⟨script, []⟩ capacity).WithinBuffer capacity where
  start_le := Nat.le_refl _
  stop_le := Nat.zero_le _
  doubled := ⟨0, (Nat.mul_one _).symm⟩
  offered_pos := fun _ hcall => by cases hcall

/-- A reader that cannot tell the encoding yet lacks bytes. -/
theorem lacks_of_short
    (hunsettled : reader.encoding = none)
    (hshort : reader.unread.length < sniffLength) :
    reader.Lacks := by
  rw [Lacks, hunsettled]
  exact hshort

/-- A reader without a complete line lacks bytes. -/
theorem lacks_of_cutPiece?
    {encoding : Encoding}
    {searched : Nat}
    (hsettled : reader.encoding = some encoding)
    (hsearched : encoding.SearchedTo reader.unread searched)
    (hcut : encoding.cutPiece? reader.unread searched = none) :
    reader.Lacks := by
  rw [hsearched.cutPiece?_eq] at hcut
  rw [Lacks, hsettled]
  exact completePieces_of_cutPiece?_none hcut

/-- A reader that lacks bytes and has no room for them has no complete line. -/
theorem Lacks.completePieces_eq_nil
    (hwithin : reader.WithinBuffer capacity)
    (hlacks : reader.Lacks)
    (hfull : reader.unread.length = reader.size) :
    ∃ encoding, reader.encoding = some encoding ∧
      encoding.completePieces reader.unread = [] := by
  have hlong := hwithin.sniffLength_le
  unfold Lacks at hlacks
  cases hencoding : reader.encoding with
  | none =>
      rw [hencoding] at hlacks
      dsimp only at hlacks
      omega
  | some encoding =>
      rw [hencoding] at hlacks
      exact ⟨encoding, rfl, hlacks⟩

/-- Passing over no more than what is unread, the reader is nowhere held back. -/
theorem start_consume
    {amount : Nat}
    (h : amount ≤ reader.unread.length) :
    (reader.consume amount).start = reader.start + amount := by
  simp only [consume]
  rw [stop_sub_start, Nat.min_eq_left h]

/-- A piece is what is passed over, and the rest is what is left. -/
theorem IsFirst.bounds
    {encoding : Encoding}
    {unread rest : Bytes}
    {piece : Piece}
    (h : IsFirst encoding unread piece rest) :
    piece.size encoding ≤ unread.length ∧ rest = unread.drop (piece.size encoding) := by
  rcases h with hcut | ⟨rfl, rfl⟩
  · have hterminated := isSome_terminator_of_cutPiece? hcut
    simp only [cutPiece?, findLineEnd, List.drop_zero, Option.map_eq_some_iff] at hcut
    obtain ⟨index, hindex, hcut⟩ := hcut
    obtain ⟨-, hbound⟩ := findLineEndFrom_bounds hindex
    cases hcut
    have hsize : (unread.take index).length = index := List.length_take_of_le (by omega)
    rw [Piece.size, if_pos hterminated, hsize]
    exact ⟨by omega, rfl⟩
  · simp [Piece.size, Piece.unterminated]

/-- What a refill does to the buffer. -/
theorem soundStep_fill
    (hwithin : reader.WithinBuffer capacity)
    (hlacks : reader.Lacks) :
    reader.SoundStep reader.fill.2 where
  reads := by
    cases hexhausted : reader.exhausted with
    | true =>
        rw [fill_of_exhausted hexhausted]
        exact ⟨[], rfl, fun _ hcall => by cases hcall⟩
    | false =>
        have hroom := room_makeRoom hwithin.sized
        cases hread : reader.source.readThrough (reader.makeRoom.size - reader.unread.length) with
        | mk answer source =>
        obtain ⟨ended, hfill⟩ := fill_of_open hexhausted hread
        obtain ⟨made, hcalls, hoffered, hend⟩ := Source.calls_readThrough hread
        rw [hfill]
        refine ⟨made, hcalls, fun call hcall => ⟨hoffered call hcall, ?_, fun hnothing => ?_⟩⟩
        · rw [hoffered call hcall]
          omega
        · obtain ⟨hupcoming, hobstacle⟩ := hend (by omega) call hcall hnothing
          rw [ahead, obstacle?, hexhausted, hupcoming, hobstacle]
          exact ⟨List.append_nil _, rfl⟩
  grows := by
    rcases size_fill reader with hsize | ⟨hsize, hfull⟩
    · exact Or.inl hsize
    · exact Or.inr ⟨hsize, hfull, hlacks.completePieces_eq_nil hwithin hfull⟩
  moves := Or.inl (exists_unread_fill reader)

/-- What arrives fits behind the unread bytes. -/
theorem stop_fill_le
    (hwithin : reader.WithinBuffer capacity) :
    reader.fill.2.stop ≤ reader.fill.2.size := by
  cases hexhausted : reader.exhausted with
  | true =>
      rw [fill_of_exhausted hexhausted]
      exact hwithin.stop_le
  | false =>
      have hroom := room_makeRoom hwithin.sized
      cases hread : reader.source.readThrough (reader.makeRoom.size - reader.unread.length) with
      | mk answer source =>
          obtain ⟨ended, hfill⟩ := fill_of_open hexhausted hread
          have harrived := Source.length_arrived_le hread
          have hstart : reader.makeRoom.start = 0 := rfl
          rw [hfill]
          simp only [stop, hstart, List.length_append]
          omega

/-- What passing over the front of the unread bytes does to the buffer. -/
theorem soundStep_of_consume
    {amount : Nat}
    (hamount : amount ≤ reader.unread.length)
    (hsource : next.source = reader.source)
    (hsize : next.size = reader.size)
    (hstart : next.start = reader.start + amount)
    (hunread : next.unread = reader.unread.drop amount) :
    reader.SoundStep next where
  reads := ⟨[], by rw [hsource]; rfl, fun _ hcall => by cases hcall⟩
  grows := Or.inl hsize
  moves := Or.inr ⟨amount, hamount, hstart, by rw [start_consume hamount, hstart], hunread⟩

/-- What one step does to the buffer. -/
theorem Step.sound
    (h : reader.Step next)
    (hwithin : reader.WithinBuffer capacity) :
    reader.SoundStep next := by
  cases h with
  | refill hlacks => exact soundStep_fill hwithin hlacks
  | settle hunsettled =>
      exact soundStep_of_consume (signatureLength_le_length _ _) rfl rfl rfl rfl
  | pass hsettled hfirst =>
      exact soundStep_of_consume hfirst.bounds.1 rfl rfl rfl hfirst.bounds.2

/-- One step keeps the unread bytes within the buffer. -/
theorem Step.withinBuffer
    (h : reader.Step next)
    (hwithin : reader.WithinBuffer capacity) :
    next.WithinBuffer capacity := by
  have hsound := h.sound hwithin
  obtain ⟨doublings, hdoubled⟩ := hwithin.doubled
  refine ⟨Nat.le_add_right _ _, ?_, ?_, ?_⟩
  · have hstop := hwithin.stop_le
    cases h with
    | refill => exact stop_fill_le hwithin
    | settle =>
        have hmark := (sniff reader.unread).signatureLength_le_length reader.unread
        simp only [stop, settleEncoding, List.length_drop] at hstop ⊢
        omega
    | pass hsettled hfirst =>
        obtain ⟨hsize, hrest⟩ := hfirst.bounds
        simp only [stop, LineReader.pass, hrest, List.length_drop] at hstop ⊢
        omega
  · rcases hsound.grows with hsize | ⟨hsize, -⟩
    · exact ⟨doublings, hsize.trans hdoubled⟩
    · refine ⟨doublings + 1, ?_⟩
      rw [hsize, hdoubled, Nat.pow_succ, Nat.mul_comm 2, Nat.mul_assoc]
  · obtain ⟨made, hcalls, hmade⟩ := hsound.reads
    intro call hcall
    rw [hcalls] at hcall
    rcases List.mem_append.1 hcall with hcall | hcall
    · exact (hmade call hcall).2.1
    · exact hwithin.offered_pos call hcall

end OneStep

section Calls

open Relation

variable {capacity searched : Nat}
variable {reader next : LineReader}
variable {encoding : Encoding}

/-- What one step keeps, a chain of steps keeps. -/
theorem withinBuffer_of_steps
    (h : ReflTransGen Step reader next)
    (hwithin : reader.WithinBuffer capacity) :
    next.WithinBuffer capacity := by
  induction h with
  | refl => exact hwithin
  | tail _ hstep ih => exact hstep.withinBuffer ih

theorem step_of_fill
    {outcome : Except IoError Bool}
    (hlacks : reader.Lacks)
    (hfill : reader.fill = (outcome, next)) :
    reader.Step next := by
  have hstep := Step.refill hlacks
  rwa [hfill] at hstep

theorem encoding_of_fill
    {outcome : Except IoError Bool}
    (hfill : reader.fill = (outcome, next)) :
    next.encoding = reader.encoding := by
  have hkept := encoding_fill reader
  rwa [hfill] at hkept

/-- The bytes that tell the encoding are asked for step by step. -/
theorem steps_fillForSniffing
    (hunsettled : reader.encoding = none) :
    ReflTransGen Step reader reader.fillForSniffing.2 ∧
      reader.fillForSniffing.2.encoding = none := by
  fun_induction fillForSniffing reader with
  | case1 reader hshort error next hfill =>
      exact ⟨.single (step_of_fill (lacks_of_short hunsettled hshort) hfill),
        (encoding_of_fill hfill).trans hunsettled⟩
  | case2 reader hshort next hfill =>
      exact ⟨.single (step_of_fill (lacks_of_short hunsettled hshort) hfill),
        (encoding_of_fill hfill).trans hunsettled⟩
  | case3 reader hshort next hfill ih =>
      obtain ⟨hsteps, hkept⟩ := ih ((encoding_of_fill hfill).trans hunsettled)
      exact ⟨hsteps.head (step_of_fill (lacks_of_short hunsettled hshort) hfill), hkept⟩
  | case4 reader hlong =>
      exact ⟨.refl, hunsettled⟩

/-- The encoding is settled step by step. -/
theorem steps_requireEncoding
    {outcome : Except IoError Encoding}
    (h : reader.requireEncoding = (outcome, next)) :
    ReflTransGen Step reader next ∧
      ∀ encoding, outcome = .ok encoding → next.encoding = some encoding := by
  rw [requireEncoding] at h
  split at h
  · rename_i encoding hsettled
    cases h
    exact ⟨.refl, fun _ hencoding => hsettled.trans (by rw [Except.ok.inj hencoding])⟩
  · rename_i hunsettled
    obtain ⟨hsteps, hnone⟩ := steps_fillForSniffing hunsettled
    split at h
    · rename_i error filled hfilled
      rw [hfilled] at hsteps
      cases h
      exact ⟨hsteps, fun _ hencoding => by cases hencoding⟩
    · rename_i filled hfilled
      rw [hfilled] at hsteps hnone
      cases h
      exact ⟨hsteps.tail (.settle hnone), fun _ hencoding => by rw [← Except.ok.inj hencoding]; rfl⟩

/-- The end of a line is looked for step by step. -/
theorem steps_seekPiece
    {outcome : Except IoError (Option (Piece × Bytes))}
    (hsettled : reader.encoding = some encoding)
    (hsearched : encoding.SearchedTo reader.unread searched)
    (h : reader.seekPiece encoding searched = (outcome, next)) :
    ReflTransGen Step reader next ∧
      next.encoding = some encoding ∧
      ∀ piece rest, outcome = .ok (some (piece, rest)) →
        IsFirst encoding next.unread piece rest := by
  fun_induction seekPiece reader encoding searched with
  | case1 reader searched found hcut =>
      cases h
      refine ⟨.refl, hsettled, fun piece rest hfound => Or.inl ?_⟩
      rw [← hsearched.cutPiece?_eq, hcut, Option.some.inj (Except.ok.inj hfound)]
  | case2 reader searched hcut error after hfill =>
      cases h
      exact ⟨.single (step_of_fill (lacks_of_cutPiece? hsettled hsearched hcut) hfill),
        (encoding_of_fill hfill).trans hsettled, fun _ _ hfound => by cases hfound⟩
  | case3 reader searched hcut after hfill ih =>
      obtain ⟨more, hunread⟩ := exists_unread_fill reader
      rw [hfill] at hunread
      have hextend := hsearched.extend hcut more
      rw [← hunread] at hextend
      obtain ⟨hsteps, hkept, hfirst⟩ :=
        ih ((encoding_of_fill hfill).trans hsettled) hextend h
      have hstep := step_of_fill (lacks_of_cutPiece? hsettled hsearched hcut) hfill
      exact ⟨hsteps.head hstep, hkept, hfirst⟩
  | case4 reader searched hcut after hfill hempty =>
      cases h
      exact ⟨.single (step_of_fill (lacks_of_cutPiece? hsettled hsearched hcut) hfill),
        (encoding_of_fill hfill).trans hsettled, fun _ _ hfound => by cases hfound⟩
  | case5 reader searched hcut after hfill hne =>
      cases h
      refine ⟨.single (step_of_fill (lacks_of_cutPiece? hsettled hsearched hcut) hfill),
        (encoding_of_fill hfill).trans hsettled, fun piece rest hfound => Or.inr ?_⟩
      cases hfound
      exact ⟨rfl, rfl⟩

/-- A call for a line is a chain of steps. -/
theorem steps_nextLine
    (reader : LineReader) :
    ReflTransGen Step reader reader.nextLine.2 := by
  cases hrequire : reader.requireEncoding with
  | mk told ready =>
      obtain ⟨hready, hsettled⟩ := steps_requireEncoding hrequire
      cases told with
      | error error =>
          simp only [nextLine, hrequire]
          exact hready
      | ok encoding =>
          cases hseek : ready.seekPiece encoding 0 with
          | mk sought next =>
              obtain ⟨hnext, hkept, hfirst⟩ :=
                steps_seekPiece (hsettled encoding rfl) (searchedTo_zero _ _) hseek
              rcases sought with error | _ | ⟨piece, rest⟩
              · simp only [nextLine, hrequire, hseek]
                exact hready.trans hnext
              · simp only [nextLine, hrequire, hseek]
                exact hready.trans hnext
              · have hpass := (hready.trans hnext).tail (.pass hkept (hfirst piece rest rfl))
                simp only [nextLine, hrequire, hseek]
                split <;> exact hpass

/-- Any number of calls is a chain of steps. -/
theorem steps_afterCalls
    (reader : LineReader)
    (count : Nat) :
    ReflTransGen Step reader (reader.afterCalls count) := by
  induction count with
  | zero => exact .refl
  | succ count ih => exact ih.trans (steps_nextLine _)

end Calls

end LineReader

end XmlPreamble
