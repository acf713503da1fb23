import XmlPreamble.Proofs.PushDetection

/-!
# The lines of a document, one after the other

The look at a document numbers its lines and tells of them, but its mode hangs on less: on the bytes
of the lines in order.  What a line leaves to the next one is the state of the scan, unless it
settles the mode.  A line without bytes may be left out of them.

Main statements:

- `Transcript.mode_ofPieces`: the look at pieces comes to the mode that their bytes settle;
- `mode_transcript`: so does the look at a document;
- `Encoding.lookAll_of_filter`: lines without bytes make no difference.
-/

namespace XmlPreamble

namespace Encoding

/-- What comes of the bytes of a line: the state in which the next line is looked at, or the mode
that this line settles. -/
def look
    (encoding : Encoding)
    (state : Scan.State)
    (line : Bytes) : Except Mode Scan.State :=
  match encoding.decode line with
  | ⟨_, some _⟩ => .error .auto
  | ⟨text, none⟩ =>
      let (verdict, next) := state.classify text
      if verdict.isFinal then .error (Mode.ofVerdict verdict) else .ok next

/-- What comes of the bytes of lines in turn. -/
def lookAll
    (encoding : Encoding)
    (state : Scan.State)
    (lines : List Bytes) : Except Mode Scan.State :=
  lines.foldlM encoding.look state

section Looking

variable {encoding : Encoding}
variable {state : Scan.State}
variable {line : Bytes}

theorem look_of_fault
    {text : List Char}
    {fault : DecodeFault}
    (h : encoding.decode line = ⟨text, some fault⟩) :
    encoding.look state line = .error .auto := by
  rw [look, h]

theorem look_of_text
    {text : List Char}
    (h : encoding.decode line = ⟨text, none⟩) :
    encoding.look state line =
      if (state.classify text).1.isFinal then .error (Mode.ofVerdict (state.classify text).1)
      else .ok (state.classify text).2 := by
  rw [look, h]

/-- A line is handed on only if it is text and says nothing. -/
theorem look_eq_ok_iff
    {next : Scan.State} :
    encoding.look state line = .ok next ↔
      ∃ text, encoding.decode line = ⟨text, none⟩ ∧ state.classify text = (.proceed, next) := by
  rcases hdecoded : encoding.decode line with ⟨text, _ | fault⟩
  · rw [look_of_text hdecoded]
    rcases hstep : state.classify text with ⟨verdict, after⟩
    cases verdict <;> simp [Scan.Verdict.isFinal, hstep]
  · simp [look_of_fault hdecoded]

theorem decode_of_decodePiece_ok
    {count : LineCount}
    {piece : Piece}
    {text : List Char}
    (h : encoding.decodePiece count piece = .ok text) :
    encoding.decode piece.body = ⟨text, none⟩ := by
  rw [decodePiece, decodeLine_eq] at h
  split at h
  · rename_i read hread
    cases h
    exact hread
  · cases h

theorem look_of_decodePiece_error
    {count : LineCount}
    {piece : Piece}
    {error : DecodeError}
    (h : encoding.decodePiece count piece = .error error) :
    encoding.look state piece.body = .error .auto := by
  rw [decodePiece, decodeLine_eq] at h
  split at h
  · cases h
  · rename_i fault hread
    exact look_of_fault hread

/-- A line without bytes says nothing. -/
theorem look_nil : encoding.look state [] = .ok state := by
  have hblank : state.classify [] = (.proceed, state) := by
    rcases state with ⟨_ | _⟩ <;> decide +kernel
  rw [look_of_text encoding.decode_nil, hblank]
  rfl

theorem lookAll_append
    (encoding : Encoding)
    (state : Scan.State)
    (lines others : List Bytes) :
    encoding.lookAll state (lines ++ others) =
      encoding.lookAll state lines >>= fun next => encoding.lookAll next others :=
  List.foldlM_append

theorem lookAll_cons
    (encoding : Encoding)
    (state : Scan.State)
    (line : Bytes)
    (lines : List Bytes) :
    encoding.lookAll state (line :: lines) =
      encoding.look state line >>= fun next => encoding.lookAll next lines :=
  List.foldlM_cons

/-- Lines without bytes make no difference. -/
theorem lookAll_of_filter
    (encoding : Encoding)
    (state : Scan.State)
    (lines : List Bytes) :
    encoding.lookAll state (lines.filter (!·.isEmpty)) = encoding.lookAll state lines := by
  induction lines generalizing state with
  | nil => rfl
  | cons line lines ih =>
      cases line with
      | nil =>
          rw [lookAll_cons, look_nil]
          exact ih state
      | cons byte line =>
          have hkept : ((byte :: line) :: lines).filter (!·.isEmpty) =
              (byte :: line) :: lines.filter (!·.isEmpty) := rfl
          rw [hkept, lookAll_cons, lookAll_cons]
          exact congrArg _ (funext ih)

end Looking

end Encoding

/-- The mode of a document whose lines have come to the given end.  It is validated by schema if no
line has settled anything. -/
def Mode.ofLines : Except Mode Scan.State → Mode
  | .error mode => mode
  | .ok _ => .xsd

namespace Detection

/-- The bytes of the lines of a document. -/
def documentLines
    (encoding : Encoding)
    (document : Bytes) : List Bytes :=
  (documentPieces encoding document).map Piece.body

/-- The look at pieces comes to the mode that their bytes settle. -/
theorem Transcript.mode_ofPieces
    (encoding : Encoding)
    (count : LineCount)
    (state : Scan.State)
    (pieces : List Piece) :
    (ofPieces encoding count state pieces).ending.mode =
      Mode.ofLines (encoding.lookAll state (pieces.map Piece.body)) := by
  fun_induction ofPieces encoding count state pieces with
  | case1 => rfl
  | case2 count state piece rest error hline =>
      rw [List.map_cons, Encoding.lookAll_cons, Encoding.look_of_decodePiece_error hline]
      rfl
  | case3 count state piece rest line hline verdict next hstep count' event hfinal =>
      have hread := Encoding.decode_of_decodePiece_ok hline
      rw [List.map_cons, Encoding.lookAll_cons, Encoding.look_of_text hread, hstep, if_pos hfinal]
      exact Ending.mode_settled verdict _
  | case4 count state piece rest line hline verdict next hstep count' event hfinal ih =>
      have hread := Encoding.decode_of_decodePiece_ok hline
      rw [List.map_cons, Encoding.lookAll_cons, Encoding.look_of_text hread, hstep, if_neg hfinal]
      exact ih

/-- A document comes to the mode that its lines settle. -/
theorem mode_transcript (document : Bytes) :
    (transcript document).ending.mode =
      Mode.ofLines ((Encoding.sniff document).lookAll .start
        (documentLines (Encoding.sniff document) document)) :=
  Transcript.mode_ofPieces _ _ _ _

end Detection
end XmlPreamble
