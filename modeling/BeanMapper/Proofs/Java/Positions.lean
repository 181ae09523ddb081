import BeanMapper.Proofs.Java.Tokens

/-! # Positions — where the tokens and comments of a text lie

    A text is cut into lexemes from its beginning, and what follows a lexeme is
    an end of what it was read from.  So the pieces lie one behind the other:

    * `Behind` says that something was read at least, and `Lexeme.Fits` what is
      known of a lexeme where it was read (`fits_of_lexeme?`);
    * `Stacked` says that nodes lie one behind the other, as the parts of a
      string do within it (`stacked_of_readString`);
    * `InOrder` says it of the tokens and the comments of a text, and that no
      comment overlaps a token (`inOrder_of_lex?`). -/

namespace BeanMapper

namespace Java

/-! ## Nodes behind each other -/

/-- A node begins and ends before another one begins. -/
def Node.Before (a b : Node) : Prop := a.start ≤ b.start ∧ a.stop ≤ b.start

/-- Nodes without parts lie between two offsets, the last one first. -/
structure Stacked (lo hi : Nat) (ns : List Node) : Prop where
  /-- They lie there. -/
  within : ∀ n ∈ ns, lo ≤ n.start ∧ n.start ≤ n.stop ∧ n.stop ≤ hi
  /-- Each one lies before those in front of it. -/
  sorted : ns.Pairwise fun a b => b.Before a
  /-- They have no parts. -/
  leaf : ∀ n ∈ ns, n.children = []

namespace Stacked

variable {lo hi : Nat} {ns : List Node}

theorem nil : Stacked lo hi [] :=
  ⟨fun _ hn => absurd hn List.not_mem_nil, .nil, fun _ hn => absurd hn List.not_mem_nil⟩

/-- More may be put on top. -/
theorem push {n : Node} {top : Nat} (h : Stacked lo hi ns) (hlo : lo ≤ n.start) (hhi : hi ≤ n.start)
    (hn : n.start ≤ n.stop) (htop : n.stop ≤ top) (hleaf : n.children = []) :
    Stacked lo top (n :: ns) where
  within := by
    refine List.forall_mem_cons.mpr ⟨⟨hlo, hn, htop⟩, fun m hm => ?_⟩
    obtain ⟨hlo', hm', hhi'⟩ := h.within m hm
    omega
  sorted := by
    refine List.pairwise_cons.mpr ⟨fun m hm => ?_, h.sorted⟩
    obtain ⟨hlo', hm', hhi'⟩ := h.within m hm
    exact ⟨by omega, by omega⟩
  leaf := List.forall_mem_cons.mpr ⟨hleaf, h.leaf⟩

theorem mono {top : Nat} (h : Stacked lo hi ns) (htop : hi ≤ top) : Stacked lo top ns :=
  ⟨fun n hn => ⟨(h.within n hn).1, (h.within n hn).2.1, Nat.le_trans (h.within n hn).2.2 htop⟩,
    h.sorted, h.leaf⟩

end Stacked

namespace Lexer

/-! ## What follows a lexeme -/

/-- Something was read at the beginning of a text, and the rest follows it. -/
def Behind : List Char → List Char → Prop
  | [], _ => False
  | _ :: cs, rest => rest <:+ cs

/-- What follows was cut off the text. -/
theorem Behind.exists_append {cs rest : List Char} (h : Behind cs rest) :
    ∃ read, cs = read ++ rest ∧ 0 < Text.byteLength read := by
  cases cs with
  | nil => exact h.elim
  | cons c cs =>
      obtain ⟨read, rfl⟩ := h
      refine ⟨c :: read, rfl, ?_⟩
      have hpos := Char.utf8Size_pos c
      rw [Text.byteLength_cons]
      omega

theorem afterGroups_suffix (p : Char → Bool) (inGroup : Bool) (cs : List Char) :
    afterGroups p inGroup cs <:+ cs := by
  fun_induction afterGroups p inGroup cs with
  | case1 => exact List.suffix_refl _
  | case2 inGroup c cs h ih => exact ih.trans (List.suffix_cons _ _)
  | case3 => exact List.suffix_refl _
  | case4 inGroup c cs hc h ih => exact ih.trans (List.suffix_cons _ _)
  | case5 => exact List.suffix_refl _

theorem afterSign_suffix (cs : List Char) : afterSign cs <:+ cs := by
  unfold afterSign
  split
  · exact List.suffix_cons _ _
  · exact List.suffix_cons _ _
  · exact List.suffix_refl _

theorem afterExponent_suffix (isMark : Char → Bool) (cs : List Char) :
    afterExponent isMark cs <:+ cs := by
  cases cs with
  | nil => exact List.suffix_refl _
  | cons c cs =>
      rw [afterExponent]
      split
      · exact ((afterGroups_suffix _ _ _).trans (afterSign_suffix cs)).trans (List.suffix_cons _ _)
      · exact List.suffix_refl _

theorem afterLetter_suffix (p : Char → Bool) (cs : List Char) : afterLetter p cs <:+ cs := by
  cases cs with
  | nil => exact List.suffix_refl _
  | cons c cs =>
      rw [afterLetter]
      split
      · exact List.suffix_cons _ _
      · exact List.suffix_refl _

theorem afterHex_suffix (cs : List Char) : afterHex cs <:+ cs := by
  refine ((afterLetter_suffix _ _).trans (afterExponent_suffix _ _)).trans ?_
  refine List.IsSuffix.trans ?_ (afterGroups_suffix isHexDigit false cs)
  split
  · rename_i rest heq
    have hrest : rest <:+ afterGroups isHexDigit false cs := heq ▸ List.suffix_cons _ _
    split
    · exact (afterGroups_suffix _ _ rest).trans hrest
    · exact hrest
  · exact List.suffix_refl _

/-- At a digit or a dot a decimal number reads something. -/
theorem afterDecimal_suffix {c : Char} (hc : c.isDigit = true ∨ c = '.') (cs : List Char) :
    afterDecimal (c :: cs) <:+ cs := by
  refine ((afterLetter_suffix _ _).trans (afterExponent_suffix _ _)).trans ?_
  have hwhole : afterGroups Char.isDigit false (c :: cs) <:+ cs
      ∨ (c = '.' ∧ afterGroups Char.isDigit false (c :: cs) = c :: cs) := by
    rcases hc with hc | rfl
    · have hscore : c ≠ '_' := by
        rintro rfl
        exact absurd hc (by decide)
      rw [afterGroups.eq_3 _ _ _ _ (fun d ds hd _ => hscore hd), if_pos hc]
      exact .inl (afterGroups_suffix _ _ cs)
    · rw [afterGroups.eq_3 _ _ _ _ (fun d ds hd _ => absurd hd (by decide)), if_neg (by decide)]
      exact .inr ⟨rfl, rfl⟩
  -- behind whole digits a fraction may follow, and a dot in front is read with its fraction
  split
  · rename_i rest heq
    have hrest : rest <:+ cs := by
      rcases hwhole with h | ⟨-, h⟩
      · exact (List.suffix_cons _ _).trans (heq ▸ h)
      · obtain ⟨-, rfl⟩ := List.cons.inj (heq.symm.trans h)
        exact List.suffix_refl _
    split
    · exact (afterGroups_suffix _ _ rest).trans hrest
    · exact hrest
  · rename_i hdot
    rcases hwhole with h | ⟨rfl, h⟩
    · exact h
    · exact absurd h (hdot cs)

/-- A number reads something. -/
theorem afterNumber_suffix {c : Char} (hc : c.isDigit = true ∨ c = '.') (cs : List Char) :
    afterNumber (c :: cs) <:+ cs := by
  unfold afterNumber
  split
  · rename_i d ds heq
    obtain ⟨rfl, rfl⟩ := List.cons.inj heq
    split
    · exact (afterHex_suffix ds).trans (List.suffix_cons _ _)
    · split
      · exact ((afterLetter_suffix _ _).trans (afterGroups_suffix _ _ ds)).trans (List.suffix_cons _ _)
      · split
        · exact (afterLetter_suffix _ _).trans (afterGroups_suffix _ _ _)
        · exact afterDecimal_suffix hc _
  · exact afterDecimal_suffix hc cs

theorem afterCharacter?_suffix {isEmpty : Bool} {cs rest : List Char}
    (h : afterCharacter? isEmpty cs = some rest) : rest <:+ cs := by
  fun_induction afterCharacter? isEmpty cs with
  | case1 => exact nomatch h
  | case2 => exact nomatch h
  | case3 isEmpty d cs ih =>
      exact (ih h).trans ((List.suffix_cons _ _).trans (List.suffix_cons _ _))
  | case4 => exact nomatch h
  | case5 =>
      obtain rfl := Option.some.inj h
      exact List.suffix_cons _ _
  | case6 => exact nomatch h
  | case7 isEmpty c cs _ _ _ _ ih => exact (ih h).trans (List.suffix_cons _ _)

theorem afterBlockComment?_suffix {cs rest : List Char} (h : afterBlockComment? cs = some rest) :
    rest <:+ cs := by
  fun_induction afterBlockComment? cs with
  | case1 => exact nomatch h
  | case2 =>
      obtain rfl := Option.some.inj h
      exact (List.suffix_cons _ _).trans (List.suffix_cons _ _)
  | case3 c cs _ ih => exact (ih h).trans (List.suffix_cons _ _)

/-- A symbol has a character at least. -/
theorem length_pos_of_symbol? {cs : List Char} {s : String} (h : symbol? cs = some s) :
    0 < s.length := by
  rw [symbol?.eq_def] at h
  split at h
  · rename_i hfind
    obtain rfl := Option.some.inj h
    have hall : ∀ s ∈ longSymbols, 0 < s.length := by decide +kernel
    exact hall _ (List.mem_of_find?_eq_some hfind)
  · split at h
    · exact nomatch h
    · split at h
      · obtain rfl := Option.some.inj h
        rw [String.length_ofList]
        exact Nat.zero_lt_one
      · exact nomatch h

/-- Where characters are left out, something was read. -/
theorem behind_drop {n : Nat} (hn : 0 < n) (c : Char) (cs : List Char) :
    Behind (c :: cs) ((c :: cs).drop n) := by
  obtain ⟨k, rfl⟩ := Nat.exists_eq_succ_of_ne_zero (Nat.ne_of_gt hn)
  exact List.drop_suffix k cs

/-! ## The parts of a string -/

/-- A fragment is stacked onto the pieces of a string before it. -/
theorem stacked_closeFragment {lo start : Nat} {fragment : List Char} {parts : List Node}
    (hlo : lo ≤ start) (h : Stacked lo start parts) :
    Stacked lo (start + Text.byteLength fragment) (closeFragment start fragment parts) := by
  rw [closeFragment]
  split
  · exact h.mono (Nat.le_add_right _ _)
  · exact h.push hlo (Nat.le_refl _) (Nat.le_add_right _ _) (Nat.le_refl _) rfl

/-- The parts of a string lie one behind the other, up to where what follows the string begins; by
    induction on how many characters are left. -/
theorem stacked_of_readString {isBlock : Bool} (fuel : Nat) :
    ∀ {lo offset start : Nat} {fragment cs rest : List Char} {parts result : List Node},
      lo ≤ start → offset = start + Text.byteLength fragment → Stacked lo start parts →
      readString isBlock fuel offset start fragment parts cs = some (result, rest) →
      rest <:+ cs ∧ ∃ hi, Stacked lo hi result
        ∧ hi + Text.byteLength rest ≤ offset + Text.byteLength cs := by
  induction fuel with
  | zero => exact fun _ _ _ h => nomatch h
  | succ fuel ih =>
      intro lo offset start fragment cs rest parts result hlo hoffset hparts h
      have hclosed : Stacked lo offset (closeFragment start fragment parts) := by
        rw [hoffset]
        exact stacked_closeFragment hlo hparts
      have hle : lo ≤ offset := by omega
      -- one more character of the fragment
      have hmore (c : Char) {cs : List Char}
          (h : readString isBlock fuel (offset + c.utf8Size) start (c :: fragment) parts cs
            = some (result, rest)) :
          rest <:+ c :: cs ∧ ∃ hi, Stacked lo hi result
            ∧ hi + Text.byteLength rest ≤ offset + Text.byteLength (c :: cs) := by
        obtain ⟨hsuffix, hi, hstacked, hhi⟩ :=
          ih hlo (by rw [Text.byteLength_cons]; omega) hparts h
        refine ⟨hsuffix.trans (List.suffix_cons _ _), hi, hstacked, ?_⟩
        rw [Text.byteLength_cons]
        omega
      rw [readString.eq_def] at h
      dsimp only at h
      -- at the end of the text, at an escape, at a quote, and at any other character
      split at h
      · exact nomatch h
      · rename_i cs
        split at h
        · exact nomatch h
        · rename_i n _
          have hescape : Text.byteLength ('\\' :: cs.take n) + Text.byteLength (cs.drop n)
              = Text.byteLength ('\\' :: cs) := by
            rw [← Text.byteLength_append, List.cons_append, List.take_append_drop]
          have hpushed : Stacked lo (offset + Text.byteLength ('\\' :: cs.take n))
              (part .escapeSequence offset ('\\' :: cs.take n)
                :: closeFragment start fragment parts) :=
            hclosed.push hle (Nat.le_refl _) (Nat.le_add_right _ _) (Nat.le_refl _) rfl
          have hstop (stop : Nat) : stop = stop + Text.byteLength [] := rfl
          obtain ⟨hsuffix, hi, hstacked, hhi⟩ := ih (by omega) (hstop _) hpushed h
          refine ⟨?_, hi, hstacked, by omega⟩
          exact (hsuffix.trans (List.drop_suffix n cs)).trans (List.suffix_cons _ _)
      · split at h
        · obtain ⟨rfl, rfl⟩ := Prod.mk.inj (Option.some.inj h)
          refine ⟨List.suffix_cons _ _, offset, hclosed, ?_⟩
          rw [Text.byteLength_cons]
          omega
        · split at h
          · obtain ⟨rfl, rfl⟩ := Prod.mk.inj (Option.some.inj h)
            refine ⟨?_, offset, hclosed, ?_⟩
            · exact ((List.suffix_cons _ _).trans (List.suffix_cons _ _)).trans
                (List.suffix_cons _ _)
            · simp only [Text.byteLength_cons]
              omega
          · exact hmore '"' h
      · exact hmore _ h

/-! ## Lexemes -/

/-- A text that is an identifier: it has neither a dot nor an angle bracket in it, and is not
    empty. -/
structure IsWord (cs : List Char) : Prop where
  /-- It is not empty. -/
  ne_nil : cs ≠ []
  /-- Its characters may stand in an identifier. -/
  part : ∀ c ∈ cs, Unicode.isIdentifierStart c = true ∨ Unicode.isIdentifierPart c = true

/-- A character that may not stand in an identifier is in no word. -/
theorem IsWord.notMem {cs : List Char} {c : Char} (h : IsWord cs)
    (hc : (Unicode.isIdentifierStart c || Unicode.isIdentifierPart c) = false) : c ∉ cs := by
  intro hmem
  rw [Bool.or_eq_false_iff] at hc
  rcases h.part c hmem with hstart | hpart
  · exact absurd hstart (Bool.eq_false_iff.mp hc.1)
  · exact absurd hpart (Bool.eq_false_iff.mp hc.2)

theorem IsWord.dot_notMem {cs : List Char} (h : IsWord cs) : '.' ∉ cs :=
  h.notMem (by decide +kernel)

theorem IsWord.bracket_notMem {cs : List Char} (h : IsWord cs) : ']' ∉ cs :=
  h.notMem (by decide +kernel)

-- a decision about all characters of a text would be one about all characters there are
instance (cs : List Char) : Decidable (IsWord cs) :=
  decidable_of_iff
    (cs ≠ [] ∧ cs.all (fun c => Unicode.isIdentifierStart c || Unicode.isIdentifierPart c) = true)
    ⟨fun h => ⟨h.1, by simpa using h.2⟩, fun h => ⟨h.ne_nil, by simpa using h.part⟩⟩

/-- What is known of a lexeme that was read from a text at an offset. -/
def Lexeme.Fits (offset : Nat) (cs : List Char) : Lexeme → Prop
  | .blank rest => Behind cs rest
  | .comment _ rest => Behind cs rest
  | .token shape text parts rest =>
      Behind cs rest
      ∧ (shape = .word → cs = text.toList ++ rest ∧ IsWord text.toList)
      ∧ ∃ hi, Stacked offset hi parts.reverse
          ∧ hi + Text.byteLength rest ≤ offset + Text.byteLength cs

/-- A token without parts. -/
theorem fits_of_behind {offset : Nat} {cs rest : List Char} {shape : Shape} {text : String}
    (h : Behind cs rest) (hword : shape = .word → cs = text.toList ++ rest ∧ IsWord text.toList) :
    (Lexeme.token shape text [] rest).Fits offset cs := by
  refine ⟨h, hword, offset, .nil, ?_⟩
  obtain ⟨read, rfl, -⟩ := h.exists_append
  rw [Text.byteLength_append]
  omega

/-- A token without parts that is no word. -/
theorem fits_of_ne_word {offset : Nat} {cs rest : List Char} {shape : Shape} {text : String}
    (h : Behind cs rest) (hne : shape ≠ .word) :
    (Lexeme.token shape text [] rest).Fits offset cs :=
  fits_of_behind h fun hword => absurd hword hne

/-- A symbol fits its place, as it has no parts. -/
theorem fits_of_symbolLexeme? {offset : Nat} {c : Char} {cs : List Char} {l : Lexeme}
    (h : symbolLexeme? (c :: cs) = some l) : l.Fits offset (c :: cs) := by
  rw [symbolLexeme?] at h
  split at h
  · obtain rfl := Option.some.inj h
    exact fits_of_ne_word (behind_drop (by decide +kernel) c cs) (by decide)
  · obtain ⟨s, hs, rfl⟩ := Option.map_eq_some_iff.mp h
    exact fits_of_ne_word (behind_drop (length_pos_of_symbol? hs) c cs) (by decide)

/-- A string fits its place, with its pieces stacked inside. -/
theorem fits_of_stringLexeme? {offset : Nat} {cs : List Char} {l : Lexeme}
    (h : stringLexeme? offset cs = some l) : l.Fits offset ('"' :: cs) := by
  -- the quotes at the beginning are not among the parts
  have hstring {isBlock : Bool} {opening : Nat} {inner rest : List Char} {parts : List Node}
      (hinner : inner <:+ cs)
      (hlength : opening + Text.byteLength inner ≤ Text.byteLength ('"' :: cs))
      (hread : readString isBlock (inner.length + 1) (offset + opening) (offset + opening) [] []
        inner = some (parts, rest)) :
      (Lexeme.token .string "" parts.reverse rest).Fits offset ('"' :: cs) := by
    have hstart : offset + opening = offset + opening + Text.byteLength [] := rfl
    obtain ⟨hsuffix, hi, hstacked, hhi⟩ :=
      stacked_of_readString _ (Nat.le_add_right offset opening) hstart .nil hread
    refine ⟨hsuffix.trans hinner, nofun, hi, ?_, by omega⟩
    rw [List.reverse_reverse]
    exact hstacked
  rw [stringLexeme?.eq_def] at h
  obtain ⟨⟨parts, rest⟩, hread, rfl⟩ := Option.map_eq_some_iff.mp h
  dsimp only at hread ⊢
  split at hread
  · refine hstring ((List.suffix_cons _ _).trans (List.suffix_cons _ _)) ?_ hread
    simp only [Text.byteLength_cons]
    have hquote : '"'.utf8Size = 1 := rfl
    omega
  · refine hstring (List.suffix_refl _) ?_ hread
    rw [Text.byteLength_cons]
    exact Nat.le_refl _

/-- What is read at the beginning of a text is known to fit. -/
theorem fits_of_lexeme? {offset : Nat} {cs : List Char} {l : Lexeme}
    (h : lexeme? offset cs = some l) : l.Fits offset cs := by
  unfold lexeme? at h
  split at h
  · exact nomatch h
  · obtain rfl := Option.some.inj h
    exact (List.dropWhile_suffix _).trans (List.suffix_cons _ _)
  · obtain ⟨rest, hrest, rfl⟩ := Option.map_eq_some_iff.mp h
    exact (afterBlockComment?_suffix hrest).trans (List.suffix_cons _ _)
  · exact fits_of_stringLexeme? h
  · obtain ⟨rest, hrest, rfl⟩ := Option.map_eq_some_iff.mp h
    exact fits_of_ne_word (afterCharacter?_suffix hrest) (by decide)
  · rename_i c cs _ _ _ _
    split at h
    · obtain rfl := Option.some.inj h
      exact List.dropWhile_suffix _
    · split at h
      · rename_i hstart
        obtain rfl := Option.some.inj h
        refine fits_of_behind (List.dropWhile_suffix _) fun _ => ?_
        rw [String.toList_ofList]
        refine ⟨by rw [List.cons_append, List.takeWhile_append_dropWhile], List.cons_ne_nil _ _, ?_⟩
        refine List.forall_mem_cons.mpr ⟨.inl hstart, fun d hd => .inr ?_⟩
        exact List.all_eq_true.mp List.all_takeWhile d hd
      · split at h
        · rename_i hnumber
          obtain rfl := Option.some.inj h
          refine fits_of_ne_word (afterNumber_suffix ?_ cs) (by decide)
          simp only [Bool.or_eq_true, Bool.and_eq_true, decide_eq_true_eq] at hnumber
          exact hnumber.imp_right (·.1)
        · exact fits_of_symbolLexeme? h

/-! ## Texts -/

/-- A token lies in a text. -/
structure LiesIn (source : List Char) (t : Token) : Prop where
  /-- It is not empty. -/
  lt : t.start < t.stop
  /-- It ends in the text. -/
  stop_le : t.stop ≤ Text.byteLength source
  /-- A word is an identifier. -/
  word : t.shape = .word → IsWord (Text.slice source t.start t.stop)
  /-- The parts of a string lie in it. -/
  parts : Stacked t.start t.stop t.parts.reverse

/-- Tokens and comments that were read behind an offset of a text lie one behind the other. -/
structure InOrder (source : List Char) (lo : Nat) (l : Lexed) : Prop where
  /-- The tokens lie in the text. -/
  tokens : ∀ t ∈ l.tokens, lo ≤ t.start ∧ LiesIn source t
  /-- Each token ends before the later ones. -/
  sorted : l.tokens.Pairwise fun t u => t.stop ≤ u.start
  /-- The comments lie in the text, are not empty and have no parts. -/
  comments : ∀ c ∈ l.comments, lo ≤ c.start ∧ c.start < c.stop ∧ c.stop ≤ Text.byteLength source
    ∧ c.children = []
  /-- Each comment ends before the later ones. -/
  comments_sorted : l.comments.Pairwise fun c d => c.stop ≤ d.start
  /-- No comment overlaps a token. -/
  apart : ∀ t ∈ l.tokens, ∀ c ∈ l.comments, c.stop ≤ t.start ∨ t.stop ≤ c.start

namespace InOrder

variable {source : List Char} {lo hi : Nat} {l : Lexed}

theorem empty : InOrder source lo {} where
  tokens _ ht := absurd ht List.not_mem_nil
  sorted := .nil
  comments _ hc := absurd hc List.not_mem_nil
  comments_sorted := .nil
  apart _ ht := absurd ht List.not_mem_nil

/-- What was read behind an offset was read behind an earlier one. -/
theorem mono (h : InOrder source hi l) (hle : lo ≤ hi) : InOrder source lo l :=
  ⟨fun t ht => ⟨Nat.le_trans hle (h.tokens t ht).1, (h.tokens t ht).2⟩, h.sorted,
    fun c hc => ⟨Nat.le_trans hle (h.comments c hc).1, (h.comments c hc).2⟩, h.comments_sorted,
    h.apart⟩

/-- A token in front. -/
theorem consToken {t : Token} (h : InOrder source t.stop l) (ht : LiesIn source t) :
    InOrder source t.start { l with tokens := t :: l.tokens } where
  tokens := List.forall_mem_cons.mpr
    ⟨⟨Nat.le_refl _, ht⟩, (h.mono (Nat.le_of_lt ht.lt)).tokens⟩
  sorted := List.pairwise_cons.mpr ⟨fun u hu => (h.tokens u hu).1, h.sorted⟩
  comments := (h.mono (Nat.le_of_lt ht.lt)).comments
  comments_sorted := h.comments_sorted
  apart := List.forall_mem_cons.mpr ⟨fun c hc => .inr (h.comments c hc).1, h.apart⟩

/-- A comment in front. -/
theorem consComment {kind : Kind} {start stop : Nat} (h : InOrder source stop l)
    (hlt : start < stop) (hle : stop ≤ Text.byteLength source) :
    InOrder source start { l with comments := .mk kind .none start stop [] :: l.comments } where
  tokens := (h.mono (Nat.le_of_lt hlt)).tokens
  sorted := h.sorted
  comments := List.forall_mem_cons.mpr
    ⟨⟨Nat.le_refl _, hlt, hle, rfl⟩, (h.mono (Nat.le_of_lt hlt)).comments⟩
  comments_sorted := List.pairwise_cons.mpr ⟨fun d hd => (h.comments d hd).1, h.comments_sorted⟩
  apart t ht := List.forall_mem_cons.mpr ⟨.inl (h.tokens t ht).1, h.apart t ht⟩

end InOrder

/-- Where what follows a part of a text begins. -/
theorem offset_behind (before read rest : List Char) :
    Text.byteLength before + (Text.byteLength (read ++ rest) - Text.byteLength rest)
      = Text.byteLength (before ++ read) := by
  rw [Text.byteLength_append, Text.byteLength_append, Nat.add_sub_cancel]

/-- A part of a text ends in it. -/
theorem byteLength_before_le (before read rest : List Char) :
    Text.byteLength (before ++ read) ≤ Text.byteLength (before ++ (read ++ rest)) := by
  rw [← List.append_assoc, Text.byteLength_append (before ++ read)]
  exact Nat.le_add_right _ _

/-- A token that was read behind a part of a text lies in it. -/
theorem liesIn_of_fits {before read rest : List Char} {shape : Shape} {text : String}
    {parts : List Node} (hpos : 0 < Text.byteLength read)
    (h : (Lexeme.token shape text parts rest).Fits (Text.byteLength before) (read ++ rest)) :
    LiesIn (before ++ (read ++ rest))
      ⟨shape, text, Text.byteLength before, Text.byteLength (before ++ read), parts⟩ := by
  obtain ⟨-, hword, hi, hstacked, hhi⟩ := h
  have hstop := Text.byteLength_append before read
  refine ⟨?_, byteLength_before_le before read rest, fun hshape => ?_, hstacked.mono ?_⟩
  · show Text.byteLength before < Text.byteLength (before ++ read)
    omega
  · obtain ⟨htext, hisword⟩ := hword hshape
    obtain rfl : read = text.toList := List.append_cancel_right htext
    show IsWord (Text.slice _ _ (Text.byteLength (before ++ text.toList)))
    rw [hstop, Text.slice_middle]
    exact hisword
  · show hi ≤ Text.byteLength (before ++ read)
    rw [Text.byteLength_append] at hhi
    omega

/-- Cutting a text into lexemes from an offset on; by induction on how many there may be. -/
theorem inOrder_of_lexFrom (fuel : Nat) :
    ∀ {before cs : List Char} {l : Lexed}, lexFrom fuel (Text.byteLength before) cs = some l →
      InOrder (before ++ cs) (Text.byteLength before) l := by
  induction fuel with
  | zero => exact fun h => absurd h.symm (Option.some_ne_none _)
  | succ fuel ih =>
      intro before cs l h
      -- what was read is cut off, and the rest is read behind it
      have hrest {read rest : List Char} {l : Lexed}
          (h : lexFrom fuel (Text.byteLength (before ++ read)) rest = some l) :
          InOrder (before ++ (read ++ rest)) (Text.byteLength (before ++ read)) l := by
        rw [← List.append_assoc]
        exact ih h
      rw [lexFrom] at h
      split at h
      · obtain rfl := Option.some.inj h
        exact .empty
      split at h
      · exact absurd h.symm (Option.some_ne_none _)
      · rename_i rest hlexeme
        obtain ⟨read, rfl, -⟩ := (fits_of_lexeme? hlexeme).exists_append
        rw [offset_behind] at h
        refine (hrest h).mono ?_
        rw [Text.byteLength_append]
        exact Nat.le_add_right _ _
      · rename_i kind rest hlexeme
        obtain ⟨read, rfl, hpos⟩ := (fits_of_lexeme? hlexeme).exists_append
        rw [offset_behind] at h
        obtain ⟨l, hl, rfl⟩ := Option.map_eq_some_iff.mp h
        refine (hrest hl).consComment ?_ (byteLength_before_le before read rest)
        rw [Text.byteLength_append]
        omega
      · rename_i shape text parts rest hlexeme
        have hfits := fits_of_lexeme? hlexeme
        obtain ⟨read, rfl, hpos⟩ := hfits.1.exists_append
        rw [offset_behind] at h
        obtain ⟨l, hl, rfl⟩ := Option.map_eq_some_iff.mp h
        exact (hrest hl).consToken (liesIn_of_fits hpos hfits)

/-- **The tokens and comments of a text lie one behind the other in it.** -/
theorem inOrder_of_lex? {source : List Char} {l : Lexed} (h : lex? source = some l) :
    InOrder source 0 l := by
  rw [lex?.eq_def] at h
  split at h
  · obtain rfl := Option.some.inj h
    exact .empty
  · rename_i c cs
    split at h
    · -- the mark of the encoding is passed over
      have hmark : c.utf8Size = Text.byteLength [c] := (Nat.add_zero _).symm
      rw [hmark] at h
      exact (inOrder_of_lexFrom _ h).mono (Nat.zero_le _)
    · have hstart : lexFrom _ (Text.byteLength []) (c :: cs) = some l := h
      exact inOrder_of_lexFrom _ hstart

end Lexer

end Java

end BeanMapper
