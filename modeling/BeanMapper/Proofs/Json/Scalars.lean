import BeanMapper.Proofs.Json.Quotes
import BeanMapper.Proofs.Text.Numbers
import Mathlib.Algebra.Group.Nat.Defs
import Mathlib.Data.List.TakeWhile

/-!
# Scalars — numbers of any size, read to their end

    A number is a sign, digits, a fraction and an exponent, of which all but
    the digits may be missing (`NumberText`).  The reader goes from part to
    part, and each part ends where the next one begins: that is all that is
    asked of what follows (`readScalar_of_numberText`).  The digits of a natural
    number are one such text (`numberText_toString`), and below `2^64` the
    number is what they are worth (`ofSpelling_toDigits`). -/

namespace BeanMapper.Json.Draft

variable {c : Char} {cs rest : List Char} {n : Nat}

/-! ## The parts of a number -/

/-- Nothing that stands first in a text goes on with a number. -/
def EndsNumber (rest : List Char) : Prop :=
  ∀ c ∈ rest.head?, c.isDigit = false ∧ c ≠ '.' ∧ c ≠ 'e' ∧ c ≠ 'E'

theorem endsNumber_nil : EndsNumber [] := fun _ hc => nomatch hc

theorem endsNumber_cons (hc : c.isDigit = false ∧ c ≠ '.' ∧ c ≠ 'e' ∧ c ≠ 'E') :
    EndsNumber (c :: cs) := by
  intro c' hc'
  cases hc'
  exact hc

theorem EndsNumber.isDigit (h : EndsNumber rest) : ∀ c ∈ rest.head?, c.isDigit = false :=
  fun c hc => (h c hc).1

/-- At least one digit. -/
structure IsDigits (ds : List Char) : Prop where
  /-- There is a first digit. -/
  nonempty : ds ≠ []
  /-- Nothing but digits. -/
  isDigit : ∀ c ∈ ds, c.isDigit = true

/-- The digits before the point: none but zero starts with the digit zero. -/
structure WholeText (ds : List Char) : Prop extends IsDigits ds where
  /-- No digit stands behind a zero in front. -/
  zero_alone : ∀ d more, ds ≠ '0' :: d :: more

/-- The point and the digits behind it, if there is a point. -/
inductive FractionText : Option (List Char) → List Char → Prop where
  | none : FractionText none []
  | digits {ds : List Char} (h : IsDigits ds) : FractionText (some ds) ('.' :: ds)

/-- The sign of an exponent, and whether it is a minus sign. -/
inductive SignText : Bool → List Char → Prop where
  | none : SignText false []
  | plus : SignText false ['+']
  | minus : SignText true ['-']

/-- The letter of an exponent, its sign and its digits, if there is an exponent. -/
inductive ExponentText : Option (Bool × List Char) → List Char → Prop where
  | none : ExponentText none []
  | digits {e : Char} {isNegative : Bool} {sign ds : List Char} (he : e = 'e' ∨ e = 'E')
      (hsign : SignText isNegative sign) (h : IsDigits ds) :
      ExponentText (some (isNegative, ds)) (e :: (sign ++ ds))

/-- A number, with or without a minus sign. -/
inductive NumberText : Spelling → List Char → Prop where
  | positive {whole f e : List Char} {fraction : Option (List Char)}
      {exponent : Option (Bool × List Char)} (hwhole : WholeText whole)
      (hfraction : FractionText fraction f) (hexponent : ExponentText exponent e) :
      NumberText ⟨false, whole, fraction, exponent⟩ (whole ++ (f ++ e))
  | negative {whole f e : List Char} {fraction : Option (List Char)}
      {exponent : Option (Bool × List Char)} (hwhole : WholeText whole)
      (hfraction : FractionText fraction f) (hexponent : ExponentText exponent e) :
      NumberText ⟨true, whole, fraction, exponent⟩ ('-' :: (whole ++ (f ++ e)))

/-! ## Reading the parts -/

/-- Digits are taken off a text as far as they go. -/
theorem spanDigits_append {ds : List Char} (hds : ∀ c ∈ ds, c.isDigit = true)
    (hrest : ∀ c ∈ rest.head?, c.isDigit = false) : spanDigits (ds ++ rest) = (ds, rest) := by
  rw [spanDigits, List.takeWhile_append_of_pos hds, List.dropWhile_append_of_pos hds]
  cases rest with
  | nil => simp
  | cons c rest =>
      have hc : ¬ c.isDigit = true := by simp [hrest c rfl]
      rw [List.takeWhile_cons_of_neg hc, List.dropWhile_cons_of_neg hc, List.append_nil]

theorem ExponentText.endsDigits {exponent : Option (Bool × List Char)}
    (h : ExponentText exponent cs) (hrest : EndsNumber rest) :
    ∀ c ∈ (cs ++ rest).head?, c.isDigit = false ∧ c ≠ '.' := by
  cases h with
  | none => exact fun c hc => ⟨(hrest c hc).1, (hrest c hc).2.1⟩
  | digits he _ _ =>
      rintro c ⟨⟩
      rcases he with rfl | rfl <;> decide

theorem FractionText.endsDigits {fraction : Option (List Char)} (h : FractionText fraction cs)
    (hrest : ∀ c ∈ rest.head?, c.isDigit = false ∧ c ≠ '.') :
    ∀ c ∈ (cs ++ rest).head?, c.isDigit = false := by
  cases h with
  | none => exact fun c hc => (hrest c hc).1
  | digits _ =>
      rintro c ⟨⟩
      rfl

/-- An exponent is read to its end. -/
theorem readExponent_append {exponent : Option (Bool × List Char)} (s : Spelling)
    (hs : s.exponent = none) (h : ExponentText exponent cs) (hrest : EndsNumber rest) :
    readExponent s (cs ++ rest) = (ofSpelling { s with exponent }, some rest) := by
  cases h with
  | none =>
      have hsame : { s with exponent := none } = s := by rw [← hs]
      rw [hsame]
      cases rest with
      | nil => rfl
      | cons c rest =>
          obtain ⟨-, -, he, hE⟩ := hrest c rfl
          simp [readExponent, he, hE]
  | @digits e isNegative sign ds he hsign h =>
      have hletter : (e = 'e' || e = 'E') = true := by simpa using he
      have hspan := spanDigits_append h.isDigit hrest.isDigit
      obtain ⟨d, more, rfl⟩ := List.exists_cons_of_ne_nil h.nonempty
      have hd : d.isDigit = true := h.isDigit d List.mem_cons_self
      rw [List.cons_append] at hspan
      rw [List.cons_append, List.append_assoc, readExponent.eq_def]
      dsimp only
      rw [if_pos hletter]
      cases hsign with
      | none =>
          -- the first digit is not taken for a sign
          have hminus : d ≠ '-' := by
            rintro rfl
            exact absurd hd (by decide)
          have hplus : d ≠ '+' := by
            rintro rfl
            exact absurd hd (by decide)
          simp only [List.nil_append, List.cons_append, List.cons.injEq, hminus, hplus, false_and,
            imp_self, implies_true, hspan]
      | plus => simp only [List.nil_append, List.cons_append, hspan]
      | minus => simp only [List.nil_append, List.cons_append, hspan]

/-- A fraction and an exponent are read to their end. -/
theorem readFraction_append {fraction : Option (List Char)} {exponent : Option (Bool × List Char)}
    {f e : List Char} (s : Spelling) (hs : s.fraction = none ∧ s.exponent = none)
    (hfraction : FractionText fraction f) (hexponent : ExponentText exponent e)
    (hrest : EndsNumber rest) :
    readFraction s (f ++ (e ++ rest)) = (ofSpelling { s with fraction, exponent }, some rest) := by
  have hends := hexponent.endsDigits hrest
  cases hfraction with
  | none =>
      have hsame : { s with fraction := none, exponent } = { s with exponent } := by rw [← hs.1]
      have hpoint : readFraction s (e ++ rest) = readExponent s (e ++ rest) := by
        rw [readFraction.eq_def]
        split
        · rename_i heq
          exact absurd rfl (hends '.' (by rw [heq]; rfl)).2
        · rfl
      rw [List.nil_append, hpoint, readExponent_append s hs.2 hexponent hrest, hsame]
  | @digits ds h =>
      rw [List.cons_append, readFraction, spanDigits_append h.isDigit fun c hc => (hends c hc).1]
      split
      · rename_i heq
        exact absurd (Prod.mk.inj heq).1 h.nonempty
      · rename_i heq
        cases heq
        exact readExponent_append { s with fraction := some ds } hs.2 hexponent hrest

/-- The digits of a number and all that belongs to it are read to their end. -/
theorem readDigits_append {whole f e : List Char} {fraction : Option (List Char)}
    {exponent : Option (Bool × List Char)} (isNegative : Bool) (hwhole : WholeText whole)
    (hfraction : FractionText fraction f) (hexponent : ExponentText exponent e)
    (hrest : EndsNumber rest) :
    readDigits isNegative (whole ++ (f ++ (e ++ rest)))
      = (ofSpelling ⟨isNegative, whole, fraction, exponent⟩, some rest) := by
  have hspan := spanDigits_append hwhole.isDigit
    (hfraction.endsDigits (hexponent.endsDigits hrest))
  rw [readDigits, hspan]
  split
  · rename_i h
    exact absurd (Prod.mk.inj h).1 hwhole.nonempty
  · rename_i h
    exact absurd (Prod.mk.inj h).1 (hwhole.zero_alone _ _)
  · rename_i h
    cases h
    exact readFraction_append _ ⟨rfl, rfl⟩ hfraction hexponent hrest

/-- No word and no text in quotes starts with a digit. -/
theorem readScalar_of_isDigit (hc : c.isDigit = true) (cs : List Char) :
    readScalar (c :: cs) = readDigits false (c :: cs) := by
  rw [readScalar.eq_def]
  split <;> rename_i h
  · exact nomatch h
  iterate 5
    · obtain ⟨rfl, -⟩ := List.cons.inj h
      exact absurd hc (by decide)
  · obtain ⟨rfl, rfl⟩ := List.cons.inj h
    rw [if_pos hc]

/-- **A number of any size is read to its end.** -/
theorem readScalar_of_numberText {s : Spelling} (h : NumberText s cs) (hrest : EndsNumber rest) :
    readScalar (cs ++ rest) = (ofSpelling s, some rest) := by
  cases h with
  | @positive whole f e fraction exponent hwhole hfraction hexponent =>
      have hread := readDigits_append false hwhole hfraction hexponent hrest
      obtain ⟨d, more, rfl⟩ := List.exists_cons_of_ne_nil hwhole.nonempty
      simp only [List.append_assoc, List.cons_append] at hread ⊢
      rw [readScalar_of_isDigit (hwhole.isDigit d List.mem_cons_self), hread]
  | negative hwhole hfraction hexponent =>
      simp only [List.append_assoc, List.cons_append]
      rw [readScalar, readDigits_append true hwhole hfraction hexponent hrest]

/-! ## Natural numbers -/

/-- No number but zero starts with the digit zero. -/
theorem head?_toDigits (hn : n ≠ 0) : (Nat.toDigits 10 n).head? ≠ some '0' := by
  induction n using Nat.strongRecOn with
  | ind n ih =>
      by_cases hlt : n < 10
      · rw [Nat.toDigits_of_lt_base hlt, List.head?_cons]
        have hall : ∀ n < 10, n ≠ 0 → some n.digitChar ≠ some '0' := by decide
        exact hall n hlt hn
      · have hhead := ih (n / 10) (by omega) (by omega)
        obtain ⟨d, ds, hds⟩ :=
          List.exists_cons_of_ne_nil (Nat.toDigits_ne_nil (n := n / 10) (b := 10))
        rw [Nat.toDigits_of_base_le (by decide) (Nat.le_of_not_lt hlt), hds]
        rwa [hds] at hhead

/-- The decimal digits of a number are the whole of a number text. -/
theorem wholeText_toDigits (n : Nat) : WholeText (Nat.toDigits 10 n) where
  nonempty := Nat.toDigits_ne_nil
  isDigit c hc := Nat.isDigit_of_mem_toDigits (by decide) (by decide) hc
  zero_alone d more heq := by
    by_cases hzero : n = 0
    · rw [hzero, Nat.toDigits_zero] at heq
      exact nomatch heq
    · exact absurd (by rw [heq]; rfl) (head?_toDigits hzero)

theorem numberText_toString (n : Nat) :
    NumberText ⟨false, Nat.toDigits 10 n, none, none⟩ (toString n).toList := by
  have h := NumberText.positive (wholeText_toDigits n) .none .none
  rw [List.append_nil, List.append_nil] at h
  rwa [Nat.toString_eq_ofList_toDigits, String.toList_ofList]

/-- A whole number of 64 bits is worth what its digits say. -/
theorem ofSpelling_toDigits (hn : n < 2 ^ 64) :
    ofSpelling ⟨false, Nat.toDigits 10 n, none, none⟩ = .number (.natural n) := by
  have hmax : ¬ Numeral.wordMax < n := by
    rw [Numeral.wordMax]
    simp only [Nat.pow_eq]
    omega
  simp [ofSpelling, Numeral.ofSpelling?, Text.digitsValue_toDigits, hmax]

end BeanMapper.Json.Draft
