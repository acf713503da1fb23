import XmlPreamble.Location.Address
import XmlPreamble.Location.Name
import XmlPreamble.Location.Percent
import XmlPreamble.Text.Utf8

/-!
# Hosts

The host of a location is a name or a numeric address.  All that is asked of it is whether it is
well formed, and whether it is the name under which every machine knows itself.

Main statements:

- `readName?_of_isPlain`: a name in lower-case letters, digits, hyphens and dots is read as it
  stands;
- `ofLabels?_eq_here_iff` and `read?_localName`: the machine itself has one name only, under which
  it is found.
-/

namespace XmlPreamble.Location

open Text

/-- Where a location lies. -/
inductive Host where
  /-- On this machine. -/
  | here
  /-- On another machine, or on one that cannot be told to be this one. -/
  | elsewhere
  deriving DecidableEq, Repr

namespace Host

/-- The name of this machine. -/
def localName : List Char := ['l', 'o', 'c', 'a', 'l', 'h', 'o', 's', 't']

/-- The host with the given labels, if they make one.  A name that ends in a number has to be an
address. -/
def ofLabels? (labels : List (List Char)) : Option Host :=
  if labels = [[]] then none
  else if Dotted.endsInNumber labels then
    if Dotted.isAddress labels then some .elsewhere else none
  else if labels = [localName] then some .here
  else some .elsewhere

/-- The host that a text without brackets names. -/
def readName? (text : List Char) : Option Host :=
  match Utf8.decode (Percent.unescape (Utf8.encode text)) with
  | .error _ => none
  | .ok name => (Name.labels? name).bind ofLabels?

/-- The host that a text names, if it names one. -/
def read? : List Char → Option Host
  | '[' :: rest =>
      if rest.getLast? = some ']' && Grouped.isAddress rest.dropLast then some .elsewhere else none
  | text => readName? text

section Laws

/-- The machine itself has one name only. -/
theorem ofLabels?_eq_here_iff
    (labels : List (List Char)) :
    ofLabels? labels = some .here ↔ labels = [localName] := by
  constructor
  · intro h
    simp only [ofLabels?] at h
    split at h
    · cases h
    · split at h
      · split at h <;> cases h
      · split at h
        · assumption
        · cases h
  · rintro rfl
    decide

/-- A name in lower-case letters, digits, hyphens and dots is read as it stands. -/
theorem readName?_of_isPlain
    {text : List Char}
    (h : ∀ c ∈ text, Name.isPlain c = true)
    (hne : ∀ label ∈ text.splitOnP (· = '.'), ¬ ['x', 'n', '-', '-'] <+: label) :
    readName? text = ofLabels? (text.splitOnP (· = '.')) := by
  have hbytes : ∀ byte ∈ Utf8.encode text, byte ≠ Percent.sign := by
    intro byte hbyte
    obtain ⟨c, hc, hbyte⟩ := List.mem_flatMap.1 hbyte
    have hcode := Name.toNat_of_isPlain (h c hc)
    rw [Utf8.encodeChar_of_lt (Name.toNat_lt_of_isPlain (h c hc)), List.mem_singleton] at hbyte
    subst hbyte
    intro hsign
    have := congrArg UInt8.toNat hsign
    rw [UInt8.toNat_ofNat'] at this
    simp only [Percent.sign, UInt8.reduceToNat] at this
    omega
  rw [readName?, Percent.unescape_of_no_sign hbytes,
    Utf8.decode_encode_of_lt fun c hc => Name.toNat_lt_of_isPlain (h c hc)]
  simp [Name.labels?_of_isPlain h hne]

theorem isPlain_of_mem_localName : ∀ c ∈ localName, Name.isPlain c = true :=
  List.all_eq_true.1 (by decide)

/-- This machine is found under its name. -/
theorem read?_localName : read? localName = some .here := by
  have hlabels : localName.splitOnP (· = '.') = [localName] := by decide
  have hspelling : ∀ label ∈ localName.splitOnP (· = '.'), ¬ ['x', 'n', '-', '-'] <+: label := by
    intro label hlabel
    rw [hlabels, List.mem_singleton] at hlabel
    subst hlabel
    decide
  exact (readName?_of_isPlain isPlain_of_mem_localName hspelling).trans
    ((ofLabels?_eq_here_iff _).2 hlabels)

end Laws

end Host

end XmlPreamble.Location
