import XmlPreamble.Proofs.ExactDecoding
import XmlPreamble.Proofs.FirstPlaces
import XmlPreamble.Scan.Bytes

/-!
# A scan of the bytes is a scan of the characters

The bytes with which characters begin are others than those with which they go on.  Hence the bytes
of a token begin, in the bytes of a text, only where a character does, and what stands there is read
as the token.  A cut in front of a token or behind it thus lies between two characters, what is
behind it are the bytes of a text again, and a scan that goes on there finds itself in the same
position as before.

Main statements:

- `Utf8.isBoundary_encode_iff`: the bytes of a text can be cut between its characters only;
- `Utf8.prefix_drop_encode_iff`: the bytes of a token begin where the token does;
- `Scan.ByteSearch.token?_encode_eq_some_iff`: a search of the bytes finds the first occurrence;
- `Scan.ByteSearch.pastToken_encode` and `Scan.ByteSearch.walkComments_encode`: a step over a token,
  and with it the whole walk, comes to what the characters come to;
- `Scan.ByteSearch.scan_of_bytes_is_scan_of_characters`: the search, and every look at lines.
-/

namespace XmlPreamble

/-- A step that meets no mishap hands its value on. -/
theorem ok_bind
    {ε α β : Type}
    (value : α)
    (next : α → Except ε β) :
    (Except.ok value >>= next) = next value := by
  rfl

namespace Text.Utf8

section Boundaries

variable {text before rest token : List Char}
variable {offset : Nat}

theorem startsCharacter_iff
    {byte : UInt8} :
    startsCharacter byte = true ↔ byte.toNat < 0x80 ∨ 0xC0 ≤ byte.toNat := by
  simp [startsCharacter, UInt8.lt_iff_toNat_lt, UInt8.le_iff_toNat_le]

theorem startsCharacter_payloadByte (n : Nat) : startsCharacter (payloadByte n) = false := by
  rw [Bool.eq_false_iff, Ne, startsCharacter_iff, toNat_payloadByte]
  omega

/-- A character begins with its first byte and with no other one. -/
theorem exists_encodeChar_eq (c : Char) :
    ∃ lead others, encodeChar c = lead :: others ∧ startsCharacter lead = true ∧
      ∀ byte ∈ others, startsCharacter byte = false := by
  by_cases hone : c.toNat < 0x80
  · refine ⟨_, [], encodeChar_of_lt hone, ?_, List.forall_mem_nil _⟩
    rw [startsCharacter_iff, UInt8.toNat_ofNat']
    omega
  · by_cases htwo : c.toNat < 0x800
    · refine ⟨_, _, encodeChar_of_two (by omega) htwo, ?_, ?_⟩
      · rw [startsCharacter_iff, UInt8.toNat_ofNat']
        omega
      · simp [startsCharacter_payloadByte]
    · by_cases hthree : c.toNat < 0x10000
      · refine ⟨_, _, encodeChar_of_three (by omega) hthree, ?_, ?_⟩
        · rw [startsCharacter_iff, UInt8.toNat_ofNat']
          omega
        · simp [startsCharacter_payloadByte]
      · refine ⟨_, _, encodeChar_of_four (by omega), ?_, ?_⟩
        · rw [startsCharacter_iff, UInt8.toNat_ofNat']
          omega
        · simp [startsCharacter_payloadByte]

/-- Where a byte stands with which characters begin, one character ends and the next one begins. -/
theorem exists_split_of_startsCharacter
    {byte : UInt8}
    (hbyte : (encode text)[offset]? = some byte)
    (hstarts : startsCharacter byte = true) :
    ∃ before rest, text = before ++ rest ∧ offset = (encode before).length := by
  induction text generalizing offset with
  | nil =>
      cases hbyte
  | cons c text ih =>
      rw [encode_cons] at hbyte
      rcases Nat.lt_or_ge offset (encodeChar c).length with hwithin | hbehind
      · rw [List.getElem?_append_left hwithin] at hbyte
        obtain ⟨lead, others, hchar, -, hothers⟩ := exists_encodeChar_eq c
        rw [hchar] at hbyte
        cases offset with
        | zero =>
            exact ⟨[], c :: text, rfl, rfl⟩
        | succ place =>
            have hmem : byte ∈ others := List.mem_of_getElem? hbyte
            rw [hothers byte hmem] at hstarts
            cases hstarts
      · rw [List.getElem?_append_right hbehind] at hbyte
        obtain ⟨before, rest, rfl, hplace⟩ := ih hbyte
        refine ⟨c :: before, rest, rfl, ?_⟩
        rw [encode_cons, List.length_append]
        omega

/-- The bytes of a text can be cut between its characters, and nowhere else. -/
theorem isBoundary_encode_iff :
    isBoundary (encode text) offset = true ↔
      ∃ before rest, text = before ++ rest ∧ offset = (encode before).length := by
  simp only [isBoundary, Bool.or_eq_true, beq_iff_eq, Option.any_eq_true]
  constructor
  · rintro ((rfl | rfl) | ⟨byte, hbyte, hstarts⟩)
    · exact ⟨[], text, rfl, rfl⟩
    · exact ⟨text, [], (List.append_nil text).symm, rfl⟩
    · exact exists_split_of_startsCharacter hbyte hstarts
  · rintro ⟨before, rest, rfl, rfl⟩
    cases rest with
    | nil =>
        rw [List.append_nil]
        exact Or.inl (Or.inr rfl)
    | cons c rest =>
        obtain ⟨lead, others, hchar, hlead, -⟩ := exists_encodeChar_eq c
        refine Or.inr ⟨lead, ?_, hlead⟩
        rw [encode_append, encode_cons, hchar, List.getElem?_append_right (Nat.le_refl _),
          Nat.sub_self]
        rfl

theorem drop_encode_append
    (before rest : List Char) :
    (encode (before ++ rest)).drop (encode before).length = encode rest := by
  rw [encode_append, List.drop_left]

theorem cutAt_encode
    (before rest : List Char) :
    cutAt (encode (before ++ rest)) (encode before).length = .ok (encode rest) := by
  rw [cutAt_of_isBoundary (isBoundary_encode_iff.2 ⟨before, rest, rfl, rfl⟩), drop_encode_append]

theorem characters_encode (text : List Char) : characters (encode text) = .ok text := by
  rw [characters, decode_encode]
  rfl

/-- The bytes of a text begin with those of a token only if the text begins with the token. -/
theorem encode_prefix_iff : encode token <+: encode text ↔ token <+: text := by
  constructor
  · rintro ⟨behind, hbehind⟩
    have hread := decodeFrom_encode_append token 0 [] behind
    rw [hbehind, List.append_nil] at hread
    have htext : decodeFrom 0 [] none (encode text) = .ok text := decode_encode text
    rw [htext] at hread
    -- The reader has taken in the token when it comes to what is behind its bytes.
    obtain ⟨added, hadded, -⟩ := exists_encode_of_decodeFrom hread.symm
    rw [List.reverse_reverse] at hadded
    exact ⟨added, hadded.symm⟩
  · rintro ⟨behind, rfl⟩
    rw [encode_append]
    exact List.prefix_append _ _

/-- In the bytes of a text the bytes of a token begin just where the token does in the text. -/
theorem prefix_drop_encode_iff
    (hne : token ≠ []) :
    encode token <+: (encode text).drop offset ↔
      ∃ before rest, text = before ++ token ++ rest ∧ offset = (encode before).length := by
  constructor
  · intro hbegin
    have hboundary : ∃ before rest, text = before ++ rest ∧ offset = (encode before).length := by
      cases token with
      | nil => exact absurd rfl hne
      | cons c token =>
          obtain ⟨lead, others, hchar, hlead, -⟩ := exists_encodeChar_eq c
          rw [encode_cons, hchar, List.cons_append, cons_prefix_drop_iff] at hbegin
          exact exists_split_of_startsCharacter hbegin.1 hlead
    obtain ⟨before, behind, rfl, rfl⟩ := hboundary
    rw [drop_encode_append, encode_prefix_iff] at hbegin
    obtain ⟨rest, rfl⟩ := hbegin
    exact ⟨before, rest, (List.append_assoc before token rest).symm, rfl⟩
  · rintro ⟨before, rest, rfl, rfl⟩
    rw [List.append_assoc, drop_encode_append, encode_append]
    exact List.prefix_append _ _

/-- What adds no bytes adds no characters. -/
theorem length_le_of_length_encode_append_le
    {added : List Char}
    (h : (encode (before ++ added)).length ≤ (encode before).length) :
    (before ++ added).length ≤ before.length := by
  rw [encode_append, List.length_append] at h
  cases added with
  | nil =>
      rw [List.append_nil]
  | cons c added =>
      have hpos := List.length_pos_iff.2 (encodeChar_ne_nil c)
      rw [encode_cons, List.length_append] at h
      omega

/-- Of two occurrences in a text, the one behind fewer characters lies behind fewer bytes. -/
theorem length_encode_le_iff
    {other behind : List Char}
    (hsplit : text = before ++ token ++ rest)
    (hother : text = other ++ token ++ behind) :
    (encode before).length ≤ (encode other).length ↔ before.length ≤ other.length := by
  have hfront : before <+: text := ⟨token ++ rest, by rw [hsplit, List.append_assoc]⟩
  have hfront' : other <+: text := ⟨token ++ behind, by rw [hother, List.append_assoc]⟩
  constructor
  · intro hle
    rcases Nat.le_total before.length other.length with hshort | hlong
    · exact hshort
    · obtain ⟨added, rfl⟩ := List.prefix_of_prefix_length_le hfront' hfront hlong
      exact length_le_of_length_encode_append_le hle
  · intro hle
    obtain ⟨added, rfl⟩ := List.prefix_of_prefix_length_le hfront hfront' hle
    rw [encode_append, List.length_append]
    exact Nat.le_add_right _ _

end Boundaries

end Text.Utf8

namespace Scan

open Text
open Text.Utf8 (encode isBoundary cutAt cutAt_encode characters characters_encode
  isBoundary_encode_iff drop_encode_append prefix_drop_encode_iff length_encode_le_iff)

namespace ByteSearch

/-- Both searches find the first place, and find one if there is any. -/
structure FindsFirst (search : ByteSearch) : Prop where
  token : ∀ token bytes, Finds (places token bytes) (search.token? token bytes)
  byte : ∀ byte bytes, Finds {place | bytes[place]? = some byte} (search.byte? byte bytes)

/-- The search that goes from byte to byte. -/
def leftToRight : ByteSearch where
  token? := firstIndex?
  byte? := fun byte => firstIndex? [byte]

theorem places_singleton
    (byte : UInt8)
    (bytes : Bytes) :
    places [byte] bytes = {place | bytes[place]? = some byte} := by
  ext place
  rw [places, Set.mem_ofPred_eq, cons_prefix_drop_iff]
  exact and_iff_left (List.nil_prefix)

theorem leftToRight_findsFirst : leftToRight.FindsFirst where
  token := finds_firstIndex?
  byte := by
    intro byte bytes
    rw [← places_singleton]
    exact finds_firstIndex? [byte] bytes

section Searching

variable {search : ByteSearch}
variable {token text before rest : List Char}
variable {offset : Nat}

/-- A single byte is found where it is found as a sequence. -/
theorem FindsFirst.byte?_eq
    (hsearch : search.FindsFirst)
    (byte : UInt8)
    (bytes : Bytes) :
    search.byte? byte bytes = search.token? [byte] bytes := by
  refine (hsearch.byte byte bytes).unique ?_
  rw [← places_singleton]
  exact hsearch.token [byte] bytes

/-- The first place of the bytes of a token lies behind the bytes in front of its first
occurrence. -/
theorem isLeast_places_encode_iff
    (hne : token ≠ []) :
    IsLeast (places (encode token) (encode text)) offset ↔
      ∃ before rest, OccursFirst token text before rest ∧ offset = (encode before).length := by
  constructor
  · rintro ⟨hbegin, hleast⟩
    obtain ⟨before, rest, hsplit, rfl⟩ := (prefix_drop_encode_iff hne).1 hbegin
    refine ⟨before, rest, ⟨hsplit, ?_⟩, rfl⟩
    intro other behind hother
    have hplace := hleast ((prefix_drop_encode_iff hne).2 ⟨other, behind, hother, rfl⟩)
    exact (length_encode_le_iff hsplit hother).1 hplace
  · rintro ⟨before, rest, hfirst, rfl⟩
    refine ⟨(prefix_drop_encode_iff hne).2 ⟨before, rest, hfirst.split, rfl⟩, ?_⟩
    intro place hplace
    obtain ⟨other, behind, hother, rfl⟩ := (prefix_drop_encode_iff hne).1 hplace
    exact (length_encode_le_iff hfirst.split hother).2 (hfirst.shortest other behind hother)

/-- A search of the bytes of a text finds the first occurrence of a token. -/
theorem token?_encode_eq_some_iff
    (hsearch : search.FindsFirst)
    (hne : token ≠ []) :
    search.token? (encode token) (encode text) = some offset ↔
      ∃ before rest, OccursFirst token text before rest ∧ offset = (encode before).length := by
  rw [(hsearch.token (encode token) (encode text)).eq_some_iff, isLeast_places_encode_iff hne]

/-- A search of the bytes of a text comes to nothing, or it leads behind the token, as a search of
the characters does. -/
theorem token?_encode_cases
    (hsearch : search.FindsFirst)
    (hne : token ≠ [])
    (text : List Char) :
    (search.token? (encode token) (encode text) = none ∧ afterFirst? token text = none) ∨
      ∃ before rest, OccursFirst token text before rest ∧
        search.token? (encode token) (encode text) = some (encode before).length ∧
        afterFirst? token text = some rest := by
  cases hpast : afterFirst? token text with
  | none =>
      refine Or.inl ⟨Option.eq_none_iff_forall_ne_some.2 ?_, rfl⟩
      intro offset hoffset
      obtain ⟨before, rest, hfirst, -⟩ := (token?_encode_eq_some_iff hsearch hne).1 hoffset
      rw [afterFirst?_of_occursFirst hfirst] at hpast
      cases hpast
  | some rest =>
      obtain ⟨before, hfirst⟩ := afterFirst?_eq_some_iff.1 hpast
      have hoffset := (token?_encode_eq_some_iff hsearch hne).2 ⟨before, rest, hfirst, rfl⟩
      exact Or.inr ⟨before, rest, hfirst, hoffset, rfl⟩

/-- Behind the bytes of an occurrence the bytes of a text can be cut, and the rest is text. -/
theorem cutAt_behind_token
    (h : OccursFirst token text before rest) :
    cutAt (encode text) ((encode before).length + (encode token).length) = .ok (encode rest) := by
  have hcut := cutAt_encode (before ++ token) rest
  rw [← h.split, Utf8.encode_append, List.length_append] at hcut
  exact hcut

end Searching

section Steps

variable {search : ByteSearch}
variable {inComment : Bool}

theorem containsToken_encode
    (hsearch : search.FindsFirst)
    {token : List Char}
    (hne : token ≠ [])
    (line : List Char) :
    search.containsToken token (encode line) = Text.containsToken token line := by
  rw [containsToken, Text.containsToken]
  obtain ⟨hnone, hpast⟩ | ⟨before, rest, -, hfound, hpast⟩ :=
    token?_encode_cases hsearch hne line
  · rw [hnone, hpast]
    rfl
  · rw [hfound, hpast]
    rfl

/-- A step over a token comes to the bytes of what it comes to among the characters. -/
theorem pastToken_encode
    (hsearch : search.FindsFirst)
    (inComment : Bool)
    (line : List Char) :
    search.pastToken inComment (encode line) =
      .ok ((Scan.pastToken inComment line).map encode) := by
  have hne := flippingToken_ne_nil inComment
  rw [pastToken, Scan.pastToken]
  obtain ⟨hnone, hpast⟩ | ⟨before, rest, hfirst, hfound, hpast⟩ :=
    token?_encode_cases hsearch hne line
  · rw [hnone, hpast]
    rfl
  · rw [hfound, hpast]
    simp only [cutAt_behind_token hfirst]
    rfl

theorem walkComments_of_pastToken_none
    {line : Bytes}
    (h : search.pastToken inComment line = .ok none) :
    search.walkComments inComment line = .ok (none, inComment) := by
  rw [walkComments]
  split
  · rename_i hother
    rw [h] at hother
    cases hother
  · rfl
  · rename_i hother
    rw [h] at hother
    cases hother

/-- Where a step over a token leaves the bytes of a text, the walk ends or goes on as it would among
the characters. -/
theorem walkComments_of_pastToken_some
    {line : Bytes}
    {rest : List Char}
    (h : search.pastToken inComment line = .ok (some (encode rest))) :
    search.walkComments inComment line =
      if inComment && !opensComment rest then .ok (some (encode rest), false)
      else search.walkComments (!inComment) (encode rest) := by
  rw [walkComments]
  split
  · rename_i hother
    rw [h] at hother
    cases hother
  · rename_i hother
    rw [h] at hother
    cases hother
  · rename_i found hother
    rw [h] at hother
    cases hother
    rw [characters_encode]
    cases inComment with
    | false => rfl
    | true => cases hopens : opensComment rest <;> simp [hopens]

/-- What is left of a line, with the content as bytes. -/
def spellStripped (stripped : Stripped) : Option Bytes × Bool :=
  (stripped.content.map encode, stripped.inComment)

/-- The walk over the comments of a line meets no mishap, however many tokens it passes. -/
theorem walkComments_encode
    (hsearch : search.FindsFirst)
    (inComment : Bool)
    (line : List Char) :
    search.walkComments inComment (encode line) =
      .ok (spellStripped (Scan.walkComments inComment line)) := by
  fun_induction Scan.walkComments inComment line with
  | case1 inComment line hpast =>
      have hstep := pastToken_encode hsearch inComment line
      rw [hpast] at hstep
      exact walkComments_of_pastToken_none hstep
  | case2 inComment line rest hpast hends =>
      have hstep := pastToken_encode hsearch inComment line
      rw [hpast] at hstep
      rw [walkComments_of_pastToken_some hstep, if_pos hends]
      rfl
  | case3 inComment line rest hpast hends ih =>
      have hstep := pastToken_encode hsearch inComment line
      rw [hpast] at hstep
      rw [walkComments_of_pastToken_some hstep, if_neg hends, ih]

theorem stripComments_encode
    (hsearch : search.FindsFirst)
    (inComment : Bool)
    (line : List Char) :
    search.stripComments inComment (encode line) =
      .ok (spellStripped (Scan.stripComments inComment line)) := by
  have hopening := containsToken_encode hsearch (by decide : openingToken ≠ []) line
  have hclosing := containsToken_encode hsearch (by decide : closingToken ≠ []) line
  rw [stripComments, Scan.stripComments, plain, hopening, hclosing]
  cases Text.containsToken openingToken line <;> cases Text.containsToken closingToken line
  · rfl
  · exact walkComments_encode hsearch inComment line
  · exact walkComments_encode hsearch inComment line
  · exact walkComments_encode hsearch inComment line

/-- The look behind the first `<` meets no mishap. -/
theorem opensTag_encode
    (hsearch : search.FindsFirst)
    (content : List Char) :
    search.opensTag (encode content) = .ok (Scan.opensTag content) := by
  have hsign : [0x3C] = encode ['<'] := by decide
  have hne : ['<'] ≠ [] := by decide
  rw [opensTag, hsearch.byte?_eq, hsign, Scan.opensTag]
  obtain ⟨hnone, hpast⟩ | ⟨before, rest, hfirst, hfound, hpast⟩ :=
    token?_encode_cases hsearch hne content
  · rw [hnone, hpast]
  · have hcut : cutAt (encode content) ((encode before).length + 1) = .ok (encode rest) :=
      cutAt_behind_token hfirst
    rw [hfound, hpast]
    simp only [hcut, ok_bind, characters_encode]
    cases rest with
    | nil => rfl
    | cons letter rest => rfl

/-- The verdict on the bytes of a text is the one on its characters. -/
theorem verdictOf_encode
    (hsearch : search.FindsFirst)
    (content : List Char) :
    search.verdictOf (encode content) = .ok (Scan.verdictOf content) := by
  rw [verdictOf, Scan.verdictOf, characters_encode, opensTag_encode hsearch,
    containsToken_encode hsearch (by decide), ok_bind, ok_bind]
  cases content.all isBlank with
  | true => rfl
  | false =>
      cases Text.containsToken doctypeToken content with
      | true => rfl
      | false => cases Scan.opensTag content <;> rfl

/-- The look at the bytes of a line comes to what the look at its characters comes to. -/
theorem classify_encode
    (hsearch : search.FindsFirst)
    (state : State)
    (line : List Char) :
    search.classify state (encode line) = .ok (state.classify line) := by
  rw [classify, State.classify, stripComments_encode hsearch]
  rcases Scan.stripComments state.inComment line with ⟨_ | content, _ | _⟩
  · rfl
  · rfl
  · have hverdict := verdictOf_encode hsearch content
    simp only [spellStripped, Option.map_some, ok_bind, hverdict]
    rfl
  · rfl

theorem classifyAll_encode
    (hsearch : search.FindsFirst)
    (state : State)
    (lines : List (List Char)) :
    search.classifyAll state (lines.map encode) = .ok (state.classifyAll lines) := by
  induction lines generalizing state with
  | nil =>
      rfl
  | cons line lines ih =>
      rw [List.map_cons, classifyAll, classify_encode hsearch, State.classifyAll]
      simp only [ok_bind, ih]
      rfl

end Steps

/-- **A scan of bytes is a scan of characters.**  With a search that finds first places, the bytes
of a token are found in those of a text just behind the bytes in front of its first occurrence,
where the text can be cut behind the token and text is left.  Hence a step over a token, in any
state, comes to the bytes of a text again, so that the next step finds the same position; the look
behind the first `<` and the look at lines in turn meet no mishap either, and come to what the
characters say. -/
theorem scan_of_bytes_is_scan_of_characters
    (search : ByteSearch)
    (hsearch : search.FindsFirst) :
    (∀ token text, token ≠ [] →
      (∀ offset, search.token? (encode token) (encode text) = some offset ↔
        ∃ before rest, OccursFirst token text before rest ∧ offset = (encode before).length) ∧
      ∀ before rest, OccursFirst token text before rest →
        let behind := (encode before).length + (encode token).length
        isBoundary (encode text) behind = true ∧ (encode text).drop behind = encode rest ∧
          afterFirst? token text = some rest) ∧
      (∀ text offset, search.byte? 0x3C (encode text) = some offset ↔
        ∃ before rest, OccursFirst ['<'] text before rest ∧ offset = (encode before).length) ∧
      (∀ inComment line, search.pastToken inComment (encode line) =
        .ok ((Scan.pastToken inComment line).map encode)) ∧
      (∀ content, search.opensTag (encode content) = .ok (Scan.opensTag content)) ∧
      ∀ state lines, search.classifyAll state (lines.map encode) =
        .ok (State.classifyAll state lines) := by
  refine ⟨?_, ?_, pastToken_encode hsearch, opensTag_encode hsearch, classifyAll_encode hsearch⟩
  · intro token text hne
    refine ⟨fun offset => token?_encode_eq_some_iff hsearch hne, ?_⟩
    intro before rest hfirst behind
    have hbehind : behind = (encode (before ++ token)).length := by
      rw [Utf8.encode_append, List.length_append]
    rw [hbehind, hfirst.split]
    refine ⟨isBoundary_encode_iff.2 ⟨before ++ token, rest, rfl, rfl⟩,
      drop_encode_append (before ++ token) rest, ?_⟩
    rw [← hfirst.split]
    exact afterFirst?_of_occursFirst hfirst
  · intro text offset
    have hsign : [0x3C] = encode ['<'] := by decide
    rw [hsearch.byte?_eq, hsign]
    exact token?_encode_eq_some_iff hsearch (by decide)

/-- Around the tokens of this line stand characters of two and of three bytes. -/
theorem scan_of_bytes_around_long_characters :
    leftToRight.FindsFirst ∧
      (∃ before rest, OccursFirst openingToken "é<!--→--><日>".toList before rest ∧
        2 = (encode before).length) ∧
      leftToRight.classifyAll .start [encode "é<!--→--><日>".toList] =
        .ok [(.openingTag, ⟨false⟩)] := by
  obtain ⟨htoken, -, -, -, hlines⟩ :=
    scan_of_bytes_is_scan_of_characters leftToRight leftToRight_findsFirst
  refine ⟨leftToRight_findsFirst, ?_, ?_⟩
  · have hfound :
        leftToRight.token? (encode openingToken) (encode "é<!--→--><日>".toList) = some 2 := by
      decide +kernel
    exact ((htoken openingToken _ (by decide)).1 2).1 hfound
  · have hplain : State.start.classifyAll ["é<!--→--><日>".toList] = [(.openingTag, ⟨false⟩)] := by
      decide +kernel
    have hlook := hlines .start ["é<!--→--><日>".toList]
    rw [hplain] at hlook
    exact hlook

end ByteSearch

end Scan

end XmlPreamble
