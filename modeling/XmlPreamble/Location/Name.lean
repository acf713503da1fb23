import XmlPreamble.Location.Name.Compose
import XmlPreamble.Location.Name.Direction
import XmlPreamble.Location.Name.Fold
import XmlPreamble.Location.Name.Joiner
import XmlPreamble.Location.Name.Punycode
import XmlPreamble.Location.Name.Refused
import XmlPreamble.Text.Search

/-!
# Names of hosts

The name of a host is a chain of labels with dots between them.  Characters are folded first, so
that case and style do not count, and the text is composed; then the labels are cut and looked at
one by one.  A label that begins with `xn--` spells another one in ASCII letters, and the rules
ask about the label that is spelled.  Only names in ASCII are ever compared, and so a label is
handed on as it was written.

Main statements:

- `folded?_of_isPlain`: lower-case letters, digits, hyphens and dots stand for themselves;
- `isLabel_of_isPlain`: each label made of those characters follows the rules;
- `labels?_of_isPlain`: a name made of those characters, without a label that begins with `xn--`,
  has the labels between its dots.
-/

namespace XmlPreamble.Location.Name

section Reading

/-- The characters of ASCII that no name holds: controls, the blank, and the delimiters of
locations. -/
def isForbidden (c : Char) : Bool :=
  c.toNat ≤ 0x20 || c.toNat = 0x7F ||
    ['%', '#', '/', ':', '<', '>', '?', '@', '[', '\\', ']', '^', '|'].contains c

/-- The name that a text stands for.  Forbidden characters are looked for at the end, since some of
them may have been taken in by others. -/
def folded? (text : List Char) : Option (List Char) :=
  if text.any isRefused then
    none
  else
    let name := compose (text.flatMap fold)
    if name.any isForbidden then none else some name

/-- Whether a text is in ASCII. -/
def isAscii (text : List Char) : Bool :=
  text.all (·.toNat < 0x80)

/-- Whether a text stands for itself. -/
def isSettled (text : List Char) : Bool :=
  text.all (fun c => !isRefused c && fold c = [c]) && compose text = text

/-- Whether a label begins with a combining mark. -/
def beginsWithMark : List Char → Bool
  | [] => false
  | c :: _ => isMark c

/-- The number of characters that a label outside ASCII may have. -/
def mostCharacters : Nat := 1000

/-- The number of characters in which such a label may be spelled. -/
def mostSpellingCharacters : Nat := 2000

/-- Whether settled characters make a label. -/
def isLabel (label : List Char) : Bool :=
  !beginsWithMark label && joinersFit label &&
    (isAscii label || label.length ≤ mostCharacters)

/-- The label that a text outside ASCII has been spelled as. -/
def readSpelling? (spelling : List Char) : Option (List Char) :=
  if isAscii spelling && spelling.length ≤ mostSpellingCharacters then
    Punycode.decode? spelling
  else
    none

/-- The label that a label means, if it is one.  What follows `xn--` spells another label. -/
def meaning? : List Char → Option (List Char)
  | 'x' :: 'n' :: '-' :: '-' :: spelling =>
      (readSpelling? spelling).filter fun label => isSettled label && isLabel label
  | label => if isLabel label then some label else none

/-- The labels of a name, if it is one. -/
def labels? (text : List Char) : Option (List (List Char)) :=
  match folded? text with
  | none => none
  | some name =>
      let labels := name.splitOnP (· = '.')
      match labels.mapM meaning? with
      | none => none
      | some meanings => if agree meanings then some labels else none

end Reading

section Plain

/-- The characters that a name holds as they stand. -/
def isPlain (c : Char) : Bool :=
  c.isLower || c.isDigit || c = '-' || c = '.'

/-- A plain character is one of thirty-eight. -/
theorem toNat_of_isPlain
    {c : Char}
    (h : isPlain c = true) :
    c.toNat = 0x2D ∨ c.toNat = 0x2E ∨ (0x30 ≤ c.toNat ∧ c.toNat ≤ 0x39) ∨
      (0x61 ≤ c.toNat ∧ c.toNat ≤ 0x7A) := by
  have hlower : c.isLower = (decide (c.val ≥ 'a'.val) && decide (c.val ≤ 'z'.val)) := rfl
  simp only [isPlain, hlower, Char.isDigit, Bool.or_eq_true, Bool.and_eq_true,
    decide_eq_true_eq] at h
  rcases h with ((⟨h₁, h₂⟩ | ⟨h₁, h₂⟩) | rfl) | rfl
  · exact Or.inr (Or.inr (Or.inr ⟨h₁, h₂⟩))
  · exact Or.inr (Or.inr (Or.inl ⟨h₁, h₂⟩))
  · exact Or.inl rfl
  · exact Or.inr (Or.inl rfl)

theorem toNat_lt_of_isPlain
    {c : Char}
    (h : isPlain c = true) :
    c.toNat < 0x80 := by
  have := toNat_of_isPlain h
  omega

/-- A plain character is in small letters. -/
theorem fold_of_isPlain
    {c : Char}
    (h : isPlain c = true) :
    fold c = [c] := by
  have hc := toNat_of_isPlain h
  have hlower : c.toLower = c := by
    refine dif_neg fun hu => ?_
    have h₁ : 0x41 ≤ c.toNat := hu.1
    have h₂ : c.toNat ≤ 0x5A := hu.2
    omega
  rw [fold_of_lt (toNat_lt_of_isPlain h), hlower]

theorem isForbidden_of_isPlain
    {c : Char}
    (h : isPlain c = true) :
    isForbidden c = false := by
  have hc := toNat_of_isPlain h
  have hne : ∀ d : Char, d.toNat ≠ c.toNat → c ≠ d := by
    rintro d hd rfl
    exact hd rfl
  simp only [isForbidden, List.contains_cons, List.contains_nil, Bool.or_eq_false_iff,
    decide_eq_false_iff_not, beq_eq_false_iff_ne, and_true]
  refine ⟨⟨by omega, by omega⟩, ?_⟩
  refine ⟨?_, ?_, ?_, ?_, ?_, ?_, ?_, ?_, ?_, ?_, ?_, ?_, ?_⟩ <;>
    exact hne _ (by simp only [Char.reduceToNat]; omega)

/-- Plain characters stand for themselves. -/
theorem folded?_of_isPlain
    {text : List Char}
    (h : ∀ c ∈ text, isPlain c = true) :
    folded? text = some text := by
  have hrefused : text.any isRefused = false := by
    rw [List.any_eq_false]
    intro c hc
    simp [isRefused_eq_false_of_lt (toNat_lt_of_isPlain (h c hc))]
  have hfold : text.flatMap fold = text := by
    clear hrefused
    induction text with
    | nil =>
        rfl
    | cons c rest ih =>
        rw [List.flatMap_cons, fold_of_isPlain (h c List.mem_cons_self),
          ih fun d hd => h d (List.mem_cons_of_mem _ hd)]
        rfl
  have hcompose : compose text = text :=
    compose_of_lt fun c hc => Nat.lt_trans (toNat_lt_of_isPlain (h c hc)) (by decide)
  have hforbidden : text.any isForbidden = false := by
    rw [List.any_eq_false]
    intro c hc
    simp [isForbidden_of_isPlain (h c hc)]
  simp [folded?, hrefused, hfold, hcompose, hforbidden]

/-- Plain characters make a label. -/
theorem isLabel_of_isPlain
    {label : List Char}
    (h : ∀ c ∈ label, isPlain c = true) :
    isLabel label = true := by
  have hmark : beginsWithMark label = false := by
    cases label with
    | nil =>
        rfl
    | cons c rest =>
        exact isMark_eq_false_of_lt (toNat_lt_of_isPlain (h c List.mem_cons_self))
  have hjoiner : joinersFit label = true := by
    refine joinersFit_of_no_joiner fun c hc => ?_
    have hlt := toNat_lt_of_isPlain (h c hc)
    refine ⟨?_, ?_⟩ <;> rintro rfl <;> exact absurd hlt (by decide)
  have hascii : isAscii label = true := by
    simpa [isAscii] using fun c hc => toNat_lt_of_isPlain (h c hc)
  simp [isLabel, hmark, hjoiner, hascii]

/-- What does not begin with `xn--` means itself. -/
theorem meaning?_of_not_spelling
    {label : List Char}
    (hne : ¬ ['x', 'n', '-', '-'] <+: label) :
    meaning? label = if isLabel label then some label else none := by
  unfold meaning?
  split
  · exact absurd (by simp) hne
  · rfl

/-- A name of plain characters has the labels between its dots. -/
theorem labels?_of_isPlain
    {text : List Char}
    (h : ∀ c ∈ text, isPlain c = true)
    (hne : ∀ label ∈ text.splitOnP (· = '.'), ¬ ['x', 'n', '-', '-'] <+: label) :
    labels? text = some (text.splitOnP (· = '.')) := by
  have hplain : ∀ label ∈ text.splitOnP (· = '.'), ∀ c ∈ label, isPlain c = true :=
    fun label hlabel c hc => h c (Text.mem_of_mem_splitOnP hlabel hc)
  have hmeaning : (text.splitOnP (· = '.')).mapM meaning? =
      some (text.splitOnP (· = '.')) := by
    generalize text.splitOnP (· = '.') = labels at hne hplain
    induction labels with
    | nil =>
        rfl
    | cons label rest ih =>
        have hlabel : meaning? label = some label := by
          rw [meaning?_of_not_spelling (hne label List.mem_cons_self),
            if_pos (isLabel_of_isPlain (hplain label List.mem_cons_self))]
        rw [List.mapM_cons, hlabel,
          ih (fun other hother => hne other (List.mem_cons_of_mem _ hother))
            (fun other hother => hplain other (List.mem_cons_of_mem _ hother))]
        rfl
  have hagree : agree (text.splitOnP (· = '.')) = true :=
    agree_of_lt fun label hlabel c hc =>
      Nat.lt_trans (toNat_lt_of_isPlain (hplain label hlabel c hc)) (by decide)
  simp [labels?, folded?_of_isPlain h, hmeaning, hagree]

end Plain

end XmlPreamble.Location.Name
