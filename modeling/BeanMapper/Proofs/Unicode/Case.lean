import BeanMapper.Unicode.Case
import BeanMapper.Unicode.Classes

/-! # Case — a capital at the beginning is lost in lower case

    Putting a text in lower case is no matter of its single characters: a sigma
    looks around itself, also at a first letter that was capitalized.

    * `AlikeBehind` says that a sigma cannot tell two beginnings of a text
      apart, whatever stands between them and the sigma, and
      `lowerAfter_congr` that the rest of the text then has one lower case;
    * `upper_of_ascii` compares an ASCII character with its upper case in all
      that such a look sees;
    * `lower_capitalize`: **a text that begins with an ASCII character has the
      same lower case as the capitalized text.** -/

namespace BeanMapper.Unicode

variable {a b : List Char} {c d : Char}

/-- Nothing behind two beginnings of a text, nearest character first, can tell them apart by looking
    for a cased letter. -/
def AlikeBehind (a b : List Char) : Prop :=
  ∀ between, beginsCased (between ++ a) = beginsCased (between ++ b)

theorem AlikeBehind.cons (h : AlikeBehind a b) (c : Char) : AlikeBehind (c :: a) (c :: b) := by
  intro between
  have hbetween := h (between ++ [c])
  rwa [List.append_assoc, List.append_assoc, List.singleton_append, List.singleton_append]
    at hbetween

/-- **The lower case of a text only depends on what its sigmas see before it**; by induction on the
    text, with what was read moving to the beginnings. -/
theorem lowerAfter_congr (h : AlikeBehind a b) (cs : List Char) :
    lowerAfter a cs = lowerAfter b cs := by
  induction cs generalizing a b with
  | nil => rfl
  | cons c cs ih =>
      have hsigma : lowerSigma a cs = lowerSigma b cs := by
        have hnow : beginsCased a = beginsCased b := h []
        rw [lowerSigma, lowerSigma, hnow]
      rw [lowerAfter, lowerAfter, hsigma, ih (h.cons c)]

/-- A look passes over a character or stops at it. -/
theorem beginsCased_cons (cs : List Char) :
    beginsCased (c :: cs) = if isCaseIgnorable c then beginsCased cs else isCased c := by
  rw [beginsCased, List.dropWhile_cons]
  by_cases h : isCaseIgnorable c = true
  · rw [if_pos h, if_pos h, beginsCased]
  · rw [if_neg h, if_neg h]

/-- Two characters are alike if they are passed over alike and cased alike. -/
theorem alikeBehind_singleton (hignorable : isCaseIgnorable c = isCaseIgnorable d)
    (hcased : isCased c = isCased d) : AlikeBehind [c] [d] := by
  intro between
  induction between with
  | nil =>
      show beginsCased [c] = beginsCased [d]
      rw [beginsCased_cons, beginsCased_cons, hignorable, hcased]
  | cons x between ih =>
      rw [List.cons_append, List.cons_append, beginsCased_cons, beginsCased_cons, ih]

/-! ## ASCII letters -/

/-- Whether a code point is that of an ASCII letter. -/
def IsAsciiLetter (n : Nat) : Prop := (65 ≤ n ∧ n ≤ 90) ∨ (97 ≤ n ∧ n ≤ 122)

theorem isCased_of_isAsciiLetter (h : IsAsciiLetter c.toNat) : isCased c = true := by
  rw [isCased, inRanges_eq_true_iff]
  rcases h with h | h
  · exact ⟨(65, 90), by decide +kernel, h⟩
  · exact ⟨(97, 122), by decide +kernel, h⟩

theorem inRanges_of_isAsciiLetter (h : IsAsciiLetter c.toNat) :
    inRanges [(65, 90), (97, 122)] c.toNat = true := by
  rw [inRanges_eq_true_iff]
  rcases h with h | h
  · exact ⟨_, List.mem_cons_self, h⟩
  · exact ⟨_, List.mem_cons_of_mem _ List.mem_cons_self, h⟩

theorem isCaseIgnorable_of_isAsciiLetter (h : IsAsciiLetter c.toNat) :
    isCaseIgnorable c = false :=
  inRanges_eq_false_of_apart (by decide +kernel) (inRanges_of_isAsciiLetter h)

theorem isWhiteSpace_of_isAsciiLetter (h : IsAsciiLetter c.toNat) : isWhiteSpace c = false :=
  inRanges_eq_false_of_apart (by decide +kernel) (inRanges_of_isAsciiLetter h)

/-- Only ASCII letters have a small ASCII letter as their short lower case. -/
theorem isAsciiLetter_of_toLower (h : 97 ≤ c.toLower.toNat ∧ c.toLower.toNat ≤ 122) :
    IsAsciiLetter c.toNat := by
  by_cases hcapital : 65 ≤ c.toNat ∧ c.toNat ≤ 90
  · exact .inl hcapital
  · have hsame : c.toLower = c := dif_neg fun hcap => hcapital hcap
    rw [hsame] at h
    exact .inr h

/-- A small letter has a capital of the same lower case. -/
theorem toUpper_of_small (h : 97 ≤ c.toNat ∧ c.toNat ≤ 122) :
    (65 ≤ c.toUpper.toNat ∧ c.toUpper.toNat ≤ 90) ∧ c.toUpper.toLower = c.toLower := by
  have hall : ∀ n < 123, 97 ≤ n →
      (65 ≤ (Char.ofNat n).toUpper.toNat ∧ (Char.ofNat n).toUpper.toNat ≤ 90)
        ∧ (Char.ofNat n).toUpper.toLower = (Char.ofNat n).toLower := by
    decide +kernel
  have hc := hall c.toNat (Nat.lt_succ_of_le h.2) h.1
  rwa [Char.ofNat_toNat] at hc

/-- Any other character is its own capital. -/
theorem toUpper_of_not_small (h : ¬ (97 ≤ c.toNat ∧ c.toNat ≤ 122)) : c.toUpper = c :=
  dif_neg fun hsmall => h hsmall

/-- The upper case of an ASCII character is an ASCII character with the same lower case, and a look
    passes over it or stops at it as it does at the character. -/
theorem upper_of_ascii (h : c.toNat < 128) :
    c.toUpper.toNat < 128 ∧ c.toUpper.toLower = c.toLower
      ∧ isCaseIgnorable c.toUpper = isCaseIgnorable c ∧ isCased c.toUpper = isCased c := by
  by_cases hsmall : 97 ≤ c.toNat ∧ c.toNat ≤ 122
  · obtain ⟨hcapital, hlower⟩ := toUpper_of_small hsmall
    refine ⟨by omega, hlower, ?_, ?_⟩
    · rw [isCaseIgnorable_of_isAsciiLetter (.inl hcapital),
        isCaseIgnorable_of_isAsciiLetter (.inr hsmall)]
    · rw [isCased_of_isAsciiLetter (.inl hcapital), isCased_of_isAsciiLetter (.inr hsmall)]
  · rw [toUpper_of_not_small hsmall]
    exact ⟨h, rfl, rfl, rfl⟩

/-- The lower case of an ASCII character does not look around itself. -/
theorem lowerAfter_cons_of_ascii (h : c.toNat < 128) (before rest : List Char) :
    lowerAfter before (c :: rest) = c.toLower :: lowerAfter (c :: before) rest := by
  have hne : c ≠ capitalSigma := by
    rintro rfl
    exact absurd h (by decide)
  rw [lowerAfter, if_neg hne, lowerChar, if_pos h, List.singleton_append]

/-- The lower case of a text that begins with an ASCII character. -/
theorem lower_cons_of_ascii (h : c.toNat < 128) (rest : List Char) :
    lower (c :: rest) = c.toLower :: lowerAfter [c] rest :=
  lowerAfter_cons_of_ascii h [] rest

/-- **The lower case of an ASCII text** is that of its characters. -/
theorem lower_of_ascii {cs : List Char} (h : ∀ c ∈ cs, c.toNat < 128) :
    lower cs = cs.map Char.toLower := by
  suffices hafter : ∀ before, lowerAfter before cs = cs.map Char.toLower from hafter []
  induction cs with
  | nil => exact fun _ => rfl
  | cons c cs ih =>
      intro before
      rw [lowerAfter_cons_of_ascii (h c List.mem_cons_self),
        ih fun d hd => h d (List.mem_cons_of_mem c hd), List.map_cons]

/-- **A capital at the beginning is lost in lower case**, if it is that of an ASCII character. -/
theorem lower_capitalize (h : c.toNat < 128) (rest : List Char) :
    lower (capitalize (c :: rest)) = lower (c :: rest) := by
  obtain ⟨hascii, hlower, hignorable, hcased⟩ := upper_of_ascii h
  rw [capitalize, upperChar, if_pos h, List.singleton_append, lower_cons_of_ascii hascii,
    lower_cons_of_ascii h, hlower, lowerAfter_congr (alikeBehind_singleton hignorable hcased)]

/-- The sigma behind a single letter ends the word, whatever the case of the letter. -/
example : lower (capitalize "aΣ".toList) = "aς".toList := by decide +kernel

end BeanMapper.Unicode
