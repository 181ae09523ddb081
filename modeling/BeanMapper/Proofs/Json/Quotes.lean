import BeanMapper.Json.Draft
import BeanMapper.Json.Value

/-!
# Quotes — every spelling of a text in quotes is read to its end

    What may stand in quotes is said without the reader, as texts of
    characters, and the reader follows:

    * `StringText` says what a text in quotes means, in any spelling, and
      `readScalar_of_stringText` that it is read as that; what is written for a
      text is one of its spellings (`stringText_quote`);
    * `QuotedText` says what may stand in quotes at all, halves of characters
      included.  The reader looks ahead for the other half, so that induction is
      on the length (`readChars_of_anyInside`). -/

namespace BeanMapper.Json.Draft

variable {c : Char} {cs rest before : List Char} {fuel n : Nat} {d : Draft}

/-! ## What a text means -/

/-- Four hexadecimal digits, in either case, and what they are worth. -/
inductive CodeUnit : Nat → List Char → Prop where
  | mk {c₁ c₂ c₃ c₄ : Char} {n₁ n₂ n₃ n₄ : Nat} (h₁ : hexValue? c₁ = some n₁)
      (h₂ : hexValue? c₂ = some n₂) (h₃ : hexValue? c₃ = some n₃) (h₄ : hexValue? c₄ = some n₄) :
      CodeUnit (((n₁ * 16 + n₂) * 16 + n₃) * 16 + n₄) [c₁, c₂, c₃, c₄]

/-- The first half of a character beyond the basic plane. -/
def IsHigh (n : Nat) : Prop := 0xD800 ≤ n ∧ n ≤ 0xDBFF

/-- The second half of such a character. -/
def IsLow (n : Nat) : Prop := 0xDC00 ≤ n ∧ n ≤ 0xDFFF

instance : DecidablePred IsHigh := fun _ => inferInstanceAs (Decidable (_ ∧ _))

instance : DecidablePred IsLow := fun _ => inferInstanceAs (Decidable (_ ∧ _))

/-- The letters that stand for a character behind a backslash. -/
def shortEscapes : List (Char × Char) :=
  [('"', '"'), ('\\', '\\'), ('/', '/'), ('b', '\x08'), ('f', '\x0c'), ('n', '\n'), ('r', '\r'),
   ('t', '\t')]

/-- A character that stands for itself in a text in quotes. -/
def IsPlain (c : Char) : Prop := 32 ≤ c.toNat ∧ c ≠ '"' ∧ c ≠ '\\'

instance : DecidablePred IsPlain := fun _ => inferInstanceAs (Decidable (_ ∧ _))

/-- A text whose characters stand for themselves. -/
def IsPlainText (cs : List Char) : Prop := ∀ c ∈ cs, IsPlain c

instance : DecidablePred IsPlainText := fun cs =>
  decidable_of_iff (cs.all (decide <| IsPlain ·) = true) (by simp [IsPlainText])

/-- How a character may be spelled in a text in quotes. -/
inductive Spelled : Char → List Char → Prop where
  | plain {c : Char} (h : IsPlain c) : Spelled c [c]
  | short {e c : Char} (h : (e, c) ∈ shortEscapes) : Spelled c ['\\', e]
  | code {n : Nat} {ds : List Char} (h : CodeUnit n ds) (hhigh : ¬ IsHigh n) (hlow : ¬ IsLow n) :
      Spelled (Char.ofNat n) ('\\' :: 'u' :: ds)
  | pair {high low : Nat} {ds es : List Char} (hds : CodeUnit high ds) (hes : CodeUnit low es)
      (hhigh : IsHigh high) (hlow : IsLow low) :
      Spelled (Char.ofNat (0x10000 + 0x400 * (high - 0xD800) + (low - 0xDC00)))
        ('\\' :: 'u' :: (ds ++ '\\' :: 'u' :: es))

/-- What stands between the quotes of a text with the given characters. -/
inductive Inside : List Char → List Char → Prop where
  | nil : Inside [] []
  | cons {c : Char} {cs meant more : List Char} (hc : Spelled c cs) (h : Inside meant more) :
      Inside (c :: meant) (cs ++ more)

/-- A text in quotes, in any spelling. -/
inductive StringText (s : String) : List Char → Prop where
  | mk {cs : List Char} (h : Inside s.toList cs) : StringText s ('"' :: (cs ++ ['"']))

/-- Characters that stand for themselves may stand in quotes as they are. -/
theorem Inside.plain {meant more : List Char} (hcs : IsPlainText cs) (h : Inside meant more) :
    Inside (cs ++ meant) (cs ++ more) := by
  induction cs with
  | nil => exact h
  | cons c cs ih =>
      show Inside (c :: (cs ++ meant)) ([c] ++ (cs ++ more))
      exact .cons (.plain (hcs c List.mem_cons_self)) (ih fun d hd => hcs d (List.mem_cons_of_mem c hd))

theorem Inside.stringText {meant : List Char} (h : Inside meant cs) :
    StringText (String.ofList meant) ('"' :: (cs ++ ['"'])) :=
  .mk (by rwa [String.toList_ofList])

/-- Plain characters in quotes spell themselves. -/
theorem stringText_of_plain (h : IsPlainText cs) :
    StringText (String.ofList cs) ('"' :: (cs ++ ['"'])) := by
  have hinside := Inside.plain h .nil
  rw [List.append_nil] at hinside
  exact hinside.stringText

/-- A hexadecimal digit is worth what it was made from. -/
theorem hexValue?_hexDigit : ∀ n < 16, hexValue? (hexDigit n) = some n := by decide

/-- An escaped character is a spelling of the character. -/
theorem spelled_escapeChar (c : Char) : Spelled c (escapeChar c) := by
  rw [escapeChar]
  -- the characters with an escape of their own
  iterate 7
    split
    · subst_vars
      exact .short (by decide)
  split
  · rename_i hcontrol
    have hunit := CodeUnit.mk (hexValue?_hexDigit 0 (by decide)) (hexValue?_hexDigit 0 (by decide))
      (hexValue?_hexDigit (c.toNat / 16) (by omega)) (hexValue?_hexDigit (c.toNat % 16) (by omega))
    rw [show ((0 * 16 + 0) * 16 + c.toNat / 16) * 16 + c.toNat % 16 = c.toNat by omega] at hunit
    have hhigh : ¬ IsHigh c.toNat := fun h => absurd (Nat.lt_of_le_of_lt h.1 hcontrol) (by decide)
    have hlow : ¬ IsLow c.toNat := fun h => absurd (Nat.lt_of_le_of_lt h.1 hcontrol) (by decide)
    have hspelled := Spelled.code hunit hhigh hlow
    rwa [Char.ofNat_toNat] at hspelled
  · rename_i hquote hbackslash _ _ _ _ _ hplain
    exact .plain ⟨Nat.le_of_not_lt hplain, hquote, hbackslash⟩

/-- **What is written for a text is one of its spellings.** -/
theorem stringText_quote (s : String) : StringText s (quote s.toList) := by
  have hinside (cs : List Char) : Inside cs (cs.flatMap escapeChar) := by
    induction cs with
    | nil => exact .nil
    | cons c cs ih => exact .cons (spelled_escapeChar c) ih
  rw [quote]
  exact .mk (hinside s.toList)

theorem utf8Size_of_hexValue? (h : hexValue? c = some n) : c.utf8Size = 1 := by
  rw [Char.utf8Size_eq_one_iff]
  rw [hexValue?] at h
  split at h
  · rename_i hdigit
    simp only [Char.isDigit, Bool.and_eq_true, decide_eq_true_eq] at hdigit
    exact UInt32.le_trans hdigit.2 (by decide)
  · split at h
    · rename_i hsmall
      exact UInt32.le_trans hsmall.2 (by decide)
    · split at h
      · rename_i hcapital
        exact UInt32.le_trans hcapital.2 (by decide)
      · exact nomatch h

/-- Four hexadecimal digits are read as a code unit. -/
theorem readUnit_of_codeUnit {ds : List Char} (h : CodeUnit n ds) (rest : List Char) :
    readUnit (ds ++ rest) = .ok (n, rest) := by
  cases h with
  | @mk c₁ c₂ c₃ c₄ n₁ n₂ n₃ n₄ h₁ h₂ h₃ h₄ =>
      have hbytes : ¬ Text.byteLength [c₁, c₂, c₃, c₄] < 4 := by
        simp [utf8Size_of_hexValue? h₁, utf8Size_of_hexValue? h₂, utf8Size_of_hexValue? h₃,
          utf8Size_of_hexValue? h₄]
      simp only [readUnit, List.cons_append, List.nil_append, List.take_succ_cons, List.take_zero,
        if_neg hbytes, List.mapM_cons, List.mapM_nil, h₁, h₂, h₃, h₄]
      simp only [Option.pure_def, Option.bind_eq_bind, Option.bind_some, List.foldl_cons,
        List.foldl_nil, List.drop_succ_cons, List.drop_zero]
      congr 2
      omega

theorem piece_plain (h : IsPlain c) (rest : List Char) : piece (c :: rest) = .char c rest := by
  obtain ⟨hcontrol, hquote, hbackslash⟩ := h
  rw [piece.eq_def]
  split
  · rename_i heq
    exact nomatch heq
  · rename_i heq
    exact absurd (List.cons.inj heq).1 hquote
  · rename_i heq
    exact absurd (List.cons.inj heq).1 hbackslash
  · rename_i heq
    obtain ⟨rfl, rfl⟩ := List.cons.inj heq
    rw [if_neg (Nat.not_lt.mpr hcontrol)]

theorem piece_short {e : Char} (h : (e, c) ∈ shortEscapes) (rest : List Char) :
    piece ('\\' :: e :: rest) = .char c rest := by
  simp only [shortEscapes, List.mem_cons, Prod.mk.injEq, List.not_mem_nil, or_false] at h
  rcases h with ⟨rfl, rfl⟩ | ⟨rfl, rfl⟩ | ⟨rfl, rfl⟩ | ⟨rfl, rfl⟩ | ⟨rfl, rfl⟩ | ⟨rfl, rfl⟩
    | ⟨rfl, rfl⟩ | ⟨rfl, rfl⟩ <;> rfl

theorem codePiece_whole {ds : List Char} (h : CodeUnit n ds) (hhigh : ¬ IsHigh n) (hlow : ¬ IsLow n)
    (rest : List Char) : codePiece (ds ++ rest) = .char (Char.ofNat n) rest := by
  simp only [codePiece, readUnit_of_codeUnit h]
  exact (if_neg hlow).trans (if_neg hhigh)

/-- A second half that comes first is malformed. -/
theorem codePiece_low {ds : List Char} (h : CodeUnit n ds) (hlow : IsLow n) (rest : List Char) :
    codePiece (ds ++ rest) = .half .malformed rest := by
  simp only [codePiece, readUnit_of_codeUnit h]
  exact if_pos hlow

/-- A first half asks what follows it for the second one. -/
theorem codePiece_high {ds : List Char} (h : CodeUnit n ds) (hhigh : IsHigh n) (rest : List Char) :
    codePiece (ds ++ rest) = match secondHalf rest with
      | .ok (second, after) =>
          .char (Char.ofNat (0x10000 + 0x400 * (n - 0xD800) + (second - 0xDC00))) after
      | .error fault => .half fault rest := by
  have hlow : ¬ IsLow n := fun h => absurd (Nat.le_trans h.1 hhigh.2) (by decide)
  simp only [codePiece, readUnit_of_codeUnit h]
  exact (if_neg hlow).trans (if_pos hhigh)

/-- A second half is read behind a first one. -/
theorem secondHalf_of_low {ds : List Char} (h : CodeUnit n ds) (hlow : IsLow n) (rest : List Char) :
    secondHalf ('\\' :: 'u' :: (ds ++ rest)) = .ok (n, rest) := by
  simp only [secondHalf, afterLetters, if_true, bind, Except.bind, readUnit_of_codeUnit h]
  exact if_pos hlow

/-- No other code unit may stand behind a first half. -/
theorem secondHalf_of_not_low {ds : List Char} (h : CodeUnit n ds) (hlow : ¬ IsLow n)
    (rest : List Char) : secondHalf ('\\' :: 'u' :: (ds ++ rest)) = .error .malformed := by
  simp only [secondHalf, afterLetters, if_true, bind, Except.bind, readUnit_of_codeUnit h]
  exact if_neg hlow

/-- **A spelled character is one piece of a text.** -/
theorem piece_spelled (h : Spelled c cs) (rest : List Char) : piece (cs ++ rest) = .char c rest := by
  cases h with
  | plain h => exact piece_plain h rest
  | short h => exact piece_short h rest
  | code h hhigh hlow => exact codePiece_whole h hhigh hlow rest
  | @pair high low ds es hds hes hhigh hlow =>
      have hpiece := codePiece_high hds hhigh ('\\' :: 'u' :: (es ++ rest))
      rw [secondHalf_of_low hes hlow] at hpiece
      show codePiece ((ds ++ '\\' :: 'u' :: es) ++ rest) = _
      rw [List.append_assoc, List.cons_append, List.cons_append, hpiece]

theorem Spelled.length_pos (h : Spelled c cs) : 0 < cs.length := by
  cases h <;> exact Nat.succ_pos _

/-- **The inside of a text in quotes means its characters**; by induction on them. -/
theorem readChars_of_inside {meant : List Char} (h : Inside meant cs) (hfuel : cs.length < fuel)
    (rest : List Char) :
    readChars fuel none before (cs ++ '"' :: rest)
      = (.string (String.ofList (before.reverse ++ meant)), some rest) := by
  induction h generalizing fuel before with
  | nil =>
      obtain ⟨fuel, rfl⟩ := Nat.exists_eq_add_of_lt hfuel
      simp [readChars, piece]
  | @cons c cs meant more hc _ ih =>
      have hpos := hc.length_pos
      rw [List.length_append] at hfuel
      obtain ⟨fuel, rfl⟩ : ∃ k, fuel = k + 1 := ⟨fuel - 1, by omega⟩
      rw [List.append_assoc, readChars, piece_spelled hc]
      dsimp only
      rw [ih (by omega)]
      simp

/-- **A text in quotes is read as what it means**, however it is spelled. -/
theorem readScalar_of_stringText {s : String} (h : StringText s cs) (rest : List Char) :
    readScalar (cs ++ rest) = (.string s, some rest) := by
  cases h with
  | @mk cs h =>
      rw [List.cons_append, List.append_assoc, List.singleton_append, readScalar, readText,
        readChars_of_inside h]
      · simp
      · rw [List.length_append]
        omega

/-! ## Any text in quotes -/

/-- What may stand between quotes, halves of characters included. -/
inductive AnyInside : List Char → Prop where
  | nil : AnyInside []
  | plain {c : Char} {cs : List Char} (hc : IsPlain c) (h : AnyInside cs) : AnyInside (c :: cs)
  | short {e c : Char} {cs : List Char} (he : (e, c) ∈ shortEscapes) (h : AnyInside cs) :
      AnyInside ('\\' :: e :: cs)
  | code {n : Nat} {ds cs : List Char} (hds : CodeUnit n ds) (h : AnyInside cs) :
      AnyInside ('\\' :: 'u' :: (ds ++ cs))

/-- What follows a first half holds the second one, or the reader finds fault with the first. -/
theorem secondHalf_of_anyInside (h : AnyInside cs) (rest : List Char) :
    (∃ n after, AnyInside after ∧ after.length < cs.length
        ∧ secondHalf (cs ++ '"' :: rest) = .ok (n, after ++ '"' :: rest))
      ∨ ∃ fault, secondHalf (cs ++ '"' :: rest) = .error fault := by
  cases h with
  | nil => exact .inr ⟨_, rfl⟩
  | plain hc _ =>
      refine .inr ⟨.malformed, ?_⟩
      simp only [List.cons_append, secondHalf, afterLetters, if_neg (Ne.symm hc.2.2), bind, Except.bind]
  | @short e c cs he _ =>
      have hu : 'u' ≠ e := by
        rintro rfl
        have hmem : 'u' ∈ shortEscapes.map Prod.fst := List.mem_map_of_mem he
        exact absurd hmem (by decide)
      refine .inr ⟨.malformed, ?_⟩
      simp only [List.cons_append, secondHalf, afterLetters, if_true, if_neg hu, bind, Except.bind]
  | @code n ds cs hds h =>
      simp only [List.cons_append, List.append_assoc]
      by_cases hlow : IsLow n
      · refine .inl ⟨n, cs, h, ?_, secondHalf_of_low hds hlow _⟩
        simp only [List.length_cons, List.length_append]
        omega
      · exact .inr ⟨_, secondHalf_of_not_low hds hlow _⟩

/-- The inside of any text in quotes starts with the closing quote, or with a piece that some other
    inside follows. -/
theorem piece_of_anyInside (h : AnyInside cs) (rest : List Char) :
    (cs = [] ∧ piece (cs ++ '"' :: rest) = .close rest)
      ∨ ∃ after, AnyInside after ∧ after.length < cs.length
        ∧ ((∃ c, piece (cs ++ '"' :: rest) = .char c (after ++ '"' :: rest))
          ∨ ∃ fault, piece (cs ++ '"' :: rest) = .half fault (after ++ '"' :: rest)) := by
  cases h with
  | nil => exact .inl ⟨rfl, rfl⟩
  | plain hc h =>
      exact .inr ⟨_, h, Nat.lt_succ_self _, .inl ⟨_, piece_plain hc _⟩⟩
  | short he h =>
      refine .inr ⟨_, h, ?_, .inl ⟨_, piece_short he _⟩⟩
      simp only [List.length_cons]
      omega
  | @code n ds cs hds h =>
      have hlength : cs.length < ('\\' :: 'u' :: (ds ++ cs)).length := by
        simp only [List.length_cons, List.length_append]
        omega
      have hpiece (rest : List Char) :
          piece ('\\' :: 'u' :: (ds ++ cs) ++ rest) = codePiece (ds ++ (cs ++ rest)) := by
        rw [List.cons_append, List.cons_append, List.append_assoc]
        rfl
      rw [hpiece]
      refine .inr ?_
      by_cases hhigh : IsHigh n
      · rw [codePiece_high hds hhigh]
        rcases secondHalf_of_anyInside h rest with ⟨m, after, hafter, hlt, hsecond⟩ | ⟨fault, hsecond⟩
        · rw [hsecond]
          exact ⟨after, hafter, Nat.lt_trans hlt hlength, .inl ⟨_, rfl⟩⟩
        · rw [hsecond]
          exact ⟨cs, h, hlength, .inr ⟨_, rfl⟩⟩
      · by_cases hlow : IsLow n
        · exact ⟨cs, h, hlength, .inr ⟨_, codePiece_low hds hlow _⟩⟩
        · exact ⟨cs, h, hlength, .inl ⟨_, codePiece_whole hds hhigh hlow _⟩⟩

/-- A text in quotes is read, with or without a fault for its reader alone. -/
inductive IsText : Draft → Prop where
  | string (s : String) : IsText (.string s)
  | broken (read : Fault) : IsText (.brokenText read none)

/-- Who passes over a text finds no fault with it. -/
theorem IsText.skipFault? (h : IsText d) : d.skipFault? = none := by
  cases h <;> rfl

/-- **The inside of any text in quotes is read up to the closing quote.**  The reader may take two
    escapes at once, so the induction is on the length. -/
theorem readChars_of_anyInside (h : AnyInside cs) (hfuel : cs.length < fuel) (fault : Option Fault)
    (before rest : List Char) :
    ∃ d, readChars fuel fault before (cs ++ '"' :: rest) = (d, some rest) ∧ IsText d := by
  induction hn : cs.length using Nat.strongRecOn generalizing cs fuel fault before with
  | ind n ih =>
      subst hn
      obtain ⟨fuel, rfl⟩ : ∃ k, fuel = k + 1 := ⟨fuel - 1, by omega⟩
      rw [readChars]
      rcases piece_of_anyInside h rest with ⟨-, hpiece⟩ | ⟨after, hafter, hlt, hpiece⟩
      · rw [hpiece]
        cases fault with
        | none => exact ⟨_, rfl, .string _⟩
        | some f => exact ⟨_, rfl, .broken f⟩
      · rcases hpiece with ⟨c, hpiece⟩ | ⟨f, hpiece⟩
        · rw [hpiece]
          exact ih _ hlt hafter (by omega) _ _ rfl
        · rw [hpiece]
          exact ih _ hlt hafter (by omega) _ _ rfl

/-- Any text in quotes. -/
inductive QuotedText : List Char → Prop where
  | mk {cs : List Char} (h : AnyInside cs) : QuotedText ('"' :: (cs ++ ['"']))

/-- Anything in quotes is read up to the closing quote, well formed or not. -/
theorem readScalar_of_quotedText (h : QuotedText cs) (rest : List Char) :
    ∃ d, readScalar (cs ++ rest) = (d, some rest) ∧ IsText d := by
  cases h with
  | @mk cs h =>
      rw [List.cons_append, List.append_assoc, List.singleton_append, readScalar, readText]
      refine readChars_of_anyInside h ?_ none [] rest
      rw [List.length_append]
      omega

end BeanMapper.Json.Draft
