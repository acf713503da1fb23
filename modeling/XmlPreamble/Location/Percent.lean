import XmlPreamble.Text.Search

/-!
# Percent escapes

An escape is a percent sign with two hexadecimal digits behind it, and it stands for one byte.  A
percent sign without two digits behind it stands for itself.  Escapes are read once: a percent
sign that comes out of an escape begins no further escape.

Main statements:

- `unescape_cons_of_ne`: every byte but the percent sign stands for itself;
- `unescape_escape`: an escape stands for the byte that its digits spell.
-/

namespace XmlPreamble.Location.Percent

/-- The percent sign. -/
def sign : UInt8 := 0x25

/-- The value of a hexadecimal digit, in either case. -/
def hexValue? (byte : UInt8) : Option UInt8 :=
  if 0x30 ≤ byte ∧ byte ≤ 0x39 then some (byte - 0x30)
  else if 0x41 ≤ byte ∧ byte ≤ 0x46 then some (byte - 0x37)
  else if 0x61 ≤ byte ∧ byte ≤ 0x66 then some (byte - 0x57)
  else none

/-- The byte that two hexadecimal digits spell. -/
def spelled? (high low : UInt8) : Option UInt8 :=
  match hexValue? high, hexValue? low with
  | some h, some l => some (h * 16 + l)
  | _, _ => none

/-- Reads escapes on.  The bytes read so far stand in reverse order in `done`. -/
def unescapeOnto (done : Bytes) : Bytes → Bytes
  | [] => done.reverse
  | [byte] => (byte :: done).reverse
  | [first, second] => (second :: first :: done).reverse
  | byte :: high :: low :: rest =>
      if byte = sign then
        match spelled? high low with
        | some value => unescapeOnto (value :: done) rest
        | none => unescapeOnto (byte :: done) (high :: low :: rest)
      else
        unescapeOnto (byte :: done) (high :: low :: rest)

/-- The bytes with every escape replaced by the byte that it stands for. -/
def unescape (bytes : Bytes) : Bytes :=
  unescapeOnto [] bytes

section Laws

/-- What has been read already comes out in front. -/
theorem unescapeOnto_eq
    (done bytes : Bytes) :
    unescapeOnto done bytes = done.reverse ++ unescape bytes := by
  suffices
      h : ∀ (done back : Bytes),
        unescapeOnto (done ++ back) bytes = back.reverse ++ unescapeOnto done bytes by
    simpa [unescape] using h [] done
  intro done back
  fun_induction unescapeOnto done bytes with
  | case1 => simp [unescapeOnto]
  | case2 => simp [unescapeOnto]
  | case3 => simp [unescapeOnto]
  | case4 done high low rest value hv ih =>
      rw [unescapeOnto, if_pos rfl, hv]
      simpa using ih
  | case5 done high low rest hv ih =>
      rw [unescapeOnto, if_pos rfl, hv]
      simpa using ih
  | case6 done byte high low rest hne ih =>
      rw [unescapeOnto, if_neg hne]
      simpa using ih

/-- A byte other than the percent sign stands for itself. -/
theorem unescape_cons_of_ne
    {byte : UInt8}
    (rest : Bytes)
    (h : byte ≠ sign) :
    unescape (byte :: rest) = byte :: unescape rest := by
  match rest with
  | [] => rfl
  | [_] => rfl
  | high :: low :: tail =>
      rw [unescape, unescapeOnto, if_neg h, unescapeOnto_eq]
      rfl

/-- Bytes without a percent sign stand for themselves. -/
theorem unescape_of_no_sign
    {bytes : Bytes}
    (h : ∀ byte ∈ bytes, byte ≠ sign) :
    unescape bytes = bytes := by
  induction bytes with
  | nil =>
      rfl
  | cons byte rest ih =>
      rw [unescape_cons_of_ne rest (h byte List.mem_cons_self),
        ih fun other hother => h other (List.mem_cons_of_mem _ hother)]

/-- An escape stands for the byte that its digits spell. -/
theorem unescape_escape
    {high low value : UInt8}
    (rest : Bytes)
    (h : spelled? high low = some value) :
    unescape (sign :: high :: low :: rest) = value :: unescape rest := by
  rw [unescape, unescapeOnto, if_pos rfl, h]
  simp only [unescapeOnto_eq [value] rest]
  rfl

end Laws

end XmlPreamble.Location.Percent
