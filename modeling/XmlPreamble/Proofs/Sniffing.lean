import XmlPreamble.Detection.Transcript

/-!
# Telling the encoding from the first bytes

Only the first three bytes of a document say in which encoding it is and whether a byte order mark
is to be passed over.  Hence both can be settled as soon as that many bytes have arrived, and they
are settled alike however many bytes had arrived by then.

Main statements:

- `sniff_append` and `signatureLength_append`: what comes behind the first three bytes changes
  neither the encoding nor the byte order mark;
- `documentPieces_append`: the pieces of a document are those of what is left behind its mark;
- `sniff_append_lineBreak` and `signatureLength_append_lineBreak`: what comes behind the first line
  changes neither of the two either, however short that line is.
-/

namespace XmlPreamble
namespace Encoding

section FirstBytes

variable {bytes : Bytes}

theorem isPrefixOf_append_of_length_le
    {front : Bytes}
    (more : Bytes)
    (h : front.length ≤ bytes.length) :
    front.isPrefixOf (bytes ++ more) = front.isPrefixOf bytes := by
  rw [Bool.eq_iff_iff, List.isPrefixOf_iff_prefix, List.isPrefixOf_iff_prefix]
  constructor
  · intro hfront
    exact List.prefix_of_prefix_length_le hfront (List.prefix_append bytes more) h
  · intro hfront
    exact hfront.trans (List.prefix_append bytes more)

theorem length_signature_le (encoding : Encoding) : encoding.signature.length ≤ sniffLength := by
  rcases encoding with _ | _ | _ <;> decide

theorem length_encode_less_than_sign_le
    (encoding : Encoding) :
    (encoding.encode ['<']).length ≤ sniffLength := by
  rcases encoding with _ | _ | _ <;> decide

theorem announcedBy_append
    (encoding : Encoding)
    (more : Bytes)
    (h : sniffLength ≤ bytes.length) :
    encoding.announcedBy (bytes ++ more) = encoding.announcedBy bytes := by
  have hmark := encoding.length_signature_le
  have hsign := encoding.length_encode_less_than_sign_le
  rw [announcedBy, announcedBy, isPrefixOf_append_of_length_le more (by omega),
    isPrefixOf_append_of_length_le more (by omega)]

/-- The first three bytes settle the encoding. -/
theorem sniff_append
    (more : Bytes)
    (h : sniffLength ≤ bytes.length) :
    sniff (bytes ++ more) = sniff bytes := by
  rw [sniff, sniff, announcedBy_append _ more h, announcedBy_append _ more h]

/-- The first three bytes settle the byte order mark. -/
theorem signatureLength_append
    (encoding : Encoding)
    (more : Bytes)
    (h : sniffLength ≤ bytes.length) :
    encoding.signatureLength (bytes ++ more) = encoding.signatureLength bytes := by
  have hmark := encoding.length_signature_le
  rw [signatureLength, signatureLength, isPrefixOf_append_of_length_le more (by omega)]

end FirstBytes

section FirstLine

variable {bytes : Bytes}
variable {byte : UInt8}

/-- Whether bytes begin with a front is settled before a byte comes that is not part of the front. -/
theorem isPrefixOf_append_cons_of_not_mem
    {front : Bytes}
    (rest : Bytes)
    (h : byte ∉ front) :
    front.isPrefixOf (bytes ++ byte :: rest) = front.isPrefixOf bytes := by
  rw [Bool.eq_iff_iff, List.isPrefixOf_iff_prefix, List.isPrefixOf_iff_prefix]
  constructor
  · intro hfront
    by_cases hshort : front.length ≤ bytes.length
    · exact List.prefix_of_prefix_length_le hfront (List.prefix_append bytes _) hshort
    · -- A longer front would hold the byte.
      have hcut : bytes ++ [byte] <+: bytes ++ byte :: rest := ⟨rest, by simp⟩
      have hwithin : bytes ++ [byte] <+: front := by
        refine List.prefix_of_prefix_length_le hcut hfront ?_
        rw [List.length_append, List.length_singleton]
        omega
      exact absurd (hwithin.subset (by simp)) h
  · intro hfront
    exact hfront.trans (List.prefix_append bytes _)

/-- Nothing that announces an encoding holds the end of a line. -/
theorem lineBreak_not_mem_announcing
    (hbyte : (Terminator.ofCode? byte.toNat).isSome = true)
    (encoding : Encoding) :
    byte ∉ encoding.signature ∧ byte ∉ encoding.encode ['<'] := by
  obtain ⟨terminator, hterminator⟩ := Option.isSome_iff_exists.1 hbyte
  have hone : byte = 0x0A ∨ byte = 0x0D := by
    rcases ofCode?_eq_some hterminator with ⟨-, hcode⟩ | ⟨-, hcode⟩
    · exact .inl (UInt8.toNat_inj.1 hcode)
    · exact .inr (UInt8.toNat_inj.1 hcode)
  rcases hone with rfl | rfl
  · rcases encoding with _ | _ | _ <;> decide
  · rcases encoding with _ | _ | _ <;> decide

/-- The first line settles the encoding. -/
theorem sniff_append_lineBreak
    (hbyte : (Terminator.ofCode? byte.toNat).isSome = true)
    (rest : Bytes) :
    sniff (bytes ++ byte :: rest) = sniff bytes := by
  have hannounced : ∀ encoding : Encoding,
      encoding.announcedBy (bytes ++ byte :: rest) = encoding.announcedBy bytes := by
    intro encoding
    obtain ⟨hmark, hsign⟩ := lineBreak_not_mem_announcing hbyte encoding
    rw [announcedBy, announcedBy, isPrefixOf_append_cons_of_not_mem rest hmark,
      isPrefixOf_append_cons_of_not_mem rest hsign]
  rw [sniff, sniff, hannounced, hannounced]

/-- The first line settles the byte order mark. -/
theorem signatureLength_append_lineBreak
    (hbyte : (Terminator.ofCode? byte.toNat).isSome = true)
    (encoding : Encoding)
    (rest : Bytes) :
    encoding.signatureLength (bytes ++ byte :: rest) = encoding.signatureLength bytes := by
  rw [signatureLength, signatureLength,
    isPrefixOf_append_cons_of_not_mem rest (lineBreak_not_mem_announcing hbyte encoding).1]

end FirstLine

end Encoding

namespace Detection

/-- The byte order mark is dropped from what is there, as from the whole document. -/
theorem documentPieces_append
    (encoding : Encoding)
    {bytes : Bytes}
    (more : Bytes)
    (h : Encoding.sniffLength ≤ bytes.length) :
    documentPieces encoding (bytes ++ more) =
      encoding.pieces (bytes.drop (encoding.signatureLength bytes) ++ more) := by
  have hmark := encoding.signatureLength_le_length bytes
  rw [documentPieces, encoding.signatureLength_append more h, List.drop_append_of_le_length hmark]

end Detection
end XmlPreamble
