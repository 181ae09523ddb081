import BeanMapper.Text.Split
import Mathlib.Algebra.Group.Nat.Defs
import Mathlib.Data.List.Basic

/-!
# Numbers — the texts that are read as one

    A number is read from decimal digits with an optional plus sign in front,
    if 64 bits can hold it (`readWord?_eq_some_iff`).  Every such number is
    read from the digits that it is written with (`spells_toString`).  Nothing
    in such a text is a colon, so behind the last colon of a text there is one
    place only for a number (`splitLast?_append`). -/

namespace BeanMapper.Text

variable {cs digits before after : List Char} {x : Char} {n : Nat}

/-! ## The last place of a character -/

/-- A text is cut at the last place where a character stands. -/
theorem splitLast?_append (h : x ∉ after) :
    splitLast? x (before ++ x :: after) = some (before, after) := by
  have hnone : splitLast? x after = none := by
    cases hcut : splitLast? x after with
    | none => rfl
    | some parts =>
        obtain ⟨hafter, -⟩ := splitLast?_eq_some hcut
        exact absurd (by rw [hafter]; simp) h
  induction before with
  | nil =>
      rw [List.nil_append, splitLast?, hnone]
      exact if_pos rfl
  | cons c before ih => rw [List.cons_append, splitLast?, ih]

/-! ## The value of digits -/

theorem digitsValue_eq_ofDigitChars (digits : List Char) :
    digitsValue digits = Nat.ofDigitChars 10 digits 0 := by
  have hzero : '0'.toNat = 48 := rfl
  rw [digitsValue, Nat.ofDigitChars_eq_foldl]
  simp only [digitValue, Nat.mul_comm, hzero]

/-- The digits of a number are worth the number. -/
theorem digitsValue_toDigits (n : Nat) : digitsValue (Nat.toDigits 10 n) = n := by
  rw [digitsValue_eq_ofDigitChars, Nat.ofDigitChars_ten_toDigits]

/-! ## Reading a number -/

/-- A text spells a number of 64 bits: it has decimal digits, at least one, behind a plus sign or
    none. -/
structure Spells (cs : List Char) (n : Nat) : Prop where
  digits : ∃ digits, (cs = digits ∨ cs = '+' :: digits) ∧ digits ≠ []
    ∧ (∀ c ∈ digits, c.isDigit = true) ∧ Nat.ofDigitChars 10 digits 0 = n
  lt : n < 2 ^ 64

theorem withoutPlus_of_isDigit (h : ∀ c ∈ digits, c.isDigit = true) :
    withoutPlus digits = digits := by
  rw [withoutPlus.eq_def]
  split
  · exact absurd (h '+' List.mem_cons_self) (by decide)
  · rfl

/-- Without a plus sign at its beginning a text is what it was, or a plus sign stood there. -/
theorem eq_or_eq_cons_withoutPlus (cs : List Char) :
    cs = withoutPlus cs ∨ cs = '+' :: withoutPlus cs := by
  rw [withoutPlus.eq_def]
  split
  · exact .inr rfl
  · exact .inl rfl

/-- **What is read as a number.** -/
theorem readWord?_eq_some_iff : readWord? cs = some n ↔ Spells cs n := by
  rw [readWord?, Option.ite_none_right_eq_some, Option.some.injEq, List.all_eq_true,
    digitsValue_eq_ofDigitChars]
  constructor
  · rintro ⟨⟨hne, hdigits, hlt⟩, rfl⟩
    exact ⟨⟨_, eq_or_eq_cons_withoutPlus cs, hne, hdigits, rfl⟩, hlt⟩
  · rintro ⟨⟨digits, hspelled, hne, hdigits, rfl⟩, hlt⟩
    have hplain : withoutPlus cs = digits := by
      rcases hspelled with rfl | rfl
      · exact withoutPlus_of_isDigit hdigits
      · rfl
    rw [hplain]
    exact ⟨⟨hne, hdigits, hlt⟩, rfl⟩

theorem Spells.colon_notMem (h : Spells cs n) : ':' ∉ cs := by
  obtain ⟨digits, hspelled, -, hdigits, -⟩ := h.digits
  have hcolon : ':' ∉ digits := fun hmem => absurd (hdigits _ hmem) (by decide)
  rcases hspelled with rfl | rfl
  · exact hcolon
  · simpa using hcolon

/-- **A number spells itself** in decimal digits. -/
theorem spells_toString (h : n < 2 ^ 64) : Spells (toString n).toList n := by
  rw [Nat.toString_eq_ofList_toDigits, String.toList_ofList]
  refine ⟨⟨_, .inl rfl, Nat.toDigits_ne_nil, fun c hc => ?_, ?_⟩, h⟩
  · exact Nat.isDigit_of_mem_toDigits (by decide) (by decide) hc
  · exact Nat.ofDigitChars_ten_toDigits

end BeanMapper.Text
