import BeanMapper.Proofs.Java.Positions
import BeanMapper.Proofs.Text.Parts
import BeanMapper.TypeName
import Mathlib.Data.List.TakeWhile

/-!
# Erasure — the raw name of a type as it is written

    Erasure reads a text character by character and counts open angle
    brackets; a type is a tree, whose segments have arguments that are types
    again.  What brings the two together is what the scan does to the tokens
    of a tree: inside of angle brackets they all vanish and leave the count as
    it was (`WrittenType.vanishes`, by induction on the tree), so outside of
    them a segment leaves its name only (`Segment.leaves`).

    * `WrittenType` is a type with its type arguments, nested to any depth, and
      `WrittenType.rawName` its name without them;
    * `Prints` says that a text prints tokens with any white space between them;
    * `erase_eq` says that erasure does not see white space, nor trims anything
      else, if the last character that it sees is no dot.

    `erased_of_prints` puts them together. -/

namespace BeanMapper

namespace TypeName

variable {cs rest : List Char}

/-! ## The scan -/

/-- While an angle bracket is open, other characters vanish; by induction on them. -/
theorem dropArguments_inside (hless : '<' ∉ cs) (hgreater : '>' ∉ cs) (depth : Nat)
    (rest : List Char) :
    dropArguments (depth + 1) (cs ++ rest) = dropArguments (depth + 1) rest := by
  induction cs with
  | nil => rfl
  | cons c cs ih =>
      rw [List.mem_cons, not_or] at hless hgreater
      rw [List.cons_append, dropArguments, if_neg (Ne.symm hless.1), if_neg (Ne.symm hgreater.1),
        ih hless.2 hgreater.2]
      rfl

/-- While none is open, other characters than white space stay; by induction on them. -/
theorem dropArguments_outside (hsolid : ∀ c ∈ cs, Unicode.isWhiteSpace c = false)
    (hless : '<' ∉ cs) (hgreater : '>' ∉ cs) (rest : List Char) :
    dropArguments 0 (cs ++ rest) = cs ++ dropArguments 0 rest := by
  induction cs with
  | nil => rfl
  | cons c cs ih =>
      obtain ⟨hc, hcs⟩ := List.forall_mem_cons.mp hsolid
      rw [List.mem_cons, not_or] at hless hgreater
      rw [List.cons_append, dropArguments, if_neg (Ne.symm hless.1), if_neg (Ne.symm hgreater.1),
        hc, ih hcs hless.2 hgreater.2]
      rfl

/-- The scan does not see white space; by induction on the text. -/
theorem dropArguments_filter (cs : List Char) (depth : Nat) :
    dropArguments depth (cs.filter (! Unicode.isWhiteSpace ·)) = dropArguments depth cs := by
  induction cs generalizing depth with
  | nil => rfl
  | cons c cs ih =>
      by_cases hblank : Unicode.isWhiteSpace c = true
      · -- no angle bracket is white space
        have hless : c ≠ '<' := by rintro rfl; exact absurd hblank (by decide +kernel)
        have hgreater : c ≠ '>' := by rintro rfl; exact absurd hblank (by decide +kernel)
        rw [List.filter_cons_of_neg (by simp [hblank]), ih, dropArguments, if_neg hless,
          if_neg hgreater, hblank, Bool.not_true, Bool.and_false, if_neg Bool.false_ne_true]
      · rw [List.filter_cons_of_pos (by simp [hblank]), dropArguments, dropArguments, ih, ih, ih]

/-- Dots are only dropped from a text that ends in one. -/
theorem dropEllipses_of_head?_ne (h : cs.head? ≠ some '.') : dropEllipses cs = cs := by
  rw [dropEllipses.eq_def]
  split
  · exact absurd rfl h
  · rfl

/-- White space at the start of a text is all that is dropped there. -/
theorem filter_dropWhile (cs : List Char) :
    (cs.dropWhile Unicode.isWhiteSpace).filter (! Unicode.isWhiteSpace ·)
      = cs.filter (! Unicode.isWhiteSpace ·) :=
  Text.filter_dropWhile_of (fun c hc => by rw [hc]; rfl) cs

/-- Trimming takes nothing but white space from a text. -/
theorem filter_trim (cs : List Char) :
    (Text.trim cs).filter (! Unicode.isWhiteSpace ·) = cs.filter (! Unicode.isWhiteSpace ·) := by
  rw [Text.trim, Text.trimEnd, List.filter_reverse, filter_dropWhile, List.filter_reverse,
    List.reverse_reverse, Text.trimStart, filter_dropWhile]

/-- A trimmed text ends in the last character that is not white space. -/
theorem head?_reverse_trim (cs : List Char) :
    (Text.trim cs).reverse.head? = (cs.filter (! Unicode.isWhiteSpace ·)).getLast? :=
  calc (Text.trim cs).reverse.head?
      = ((Text.trimStart cs).reverse.dropWhile Unicode.isWhiteSpace).head? := by
        rw [Text.trim, Text.trimEnd, List.reverse_reverse]
    _ = (Text.trimStart cs).reverse.find? (! Unicode.isWhiteSpace ·) := by
        simp only [List.find?_eq_head?_dropWhile_not, Bool.not_not]
    _ = ((Text.trimStart cs).filter (! Unicode.isWhiteSpace ·)).getLast? := by
        rw [← List.head?_filter, List.filter_reverse, List.head?_reverse]
    _ = (cs.filter (! Unicode.isWhiteSpace ·)).getLast? := by
        rw [Text.trimStart, filter_dropWhile]

/-- **Erasure is the scan of what is not white space**, if that does not end in a dot. -/
theorem erase_eq (h : (cs.filter (! Unicode.isWhiteSpace ·)).getLast? ≠ some '.') :
    erase cs = dropArguments 0 (cs.filter (! Unicode.isWhiteSpace ·)) := by
  rw [← head?_reverse_trim] at h
  rw [erase, dropEllipses_of_head?_ne h, List.reverse_reverse, ← dropArguments_filter,
    filter_trim]

end TypeName

namespace Java

/-! ## Types as trees -/

/-- An identifier or a keyword. -/
structure Word where
  /-- Its characters. -/
  chars : List Char
  /-- They may stand in an identifier. -/
  isWord : Lexer.IsWord chars

mutual

/-- A type as it is written: segments with dots between them, and then array brackets. -/
inductive WrittenType where
  | mk (first : Segment) (more : List Segment) (dimensions : Nat)

/-- A segment of a type: a name, with a list of type arguments or without one. -/
inductive Segment where
  | plain (name : Word)
  | generic (name : Word) (arguments : List TypeArgument)

/-- A type argument: a type or a wildcard, which may have a bound. -/
inductive TypeArgument where
  | type (type : WrittenType)
  | wildcard
  | extends (bound : WrittenType)
  | super (bound : WrittenType)

end

/-- The name of a segment, without its arguments. -/
def Segment.name : Segment → Word
  | .plain name => name
  | .generic name _ => name

/-- The names of the segments of a type with dots between them, and `[]` for each dimension. -/
def WrittenType.rawName : WrittenType → List Char
  | ⟨first, more, dimensions⟩ =>
      Text.joinWith '.' ((first :: more).map (·.name.chars))
        ++ (List.replicate dimensions ['[', ']']).flatten

/-- The name of the last segment. -/
def WrittenType.lastName : WrittenType → Word
  | ⟨first, more, _⟩ => ((first :: more).getLast (List.cons_ne_nil _ _)).name

/-- The number of array brackets. -/
def WrittenType.dimensions : WrittenType → Nat
  | ⟨_, _, dimensions⟩ => dimensions

/-! ## Their tokens -/

/-- A token of a written type. -/
inductive TypeToken where
  | word (name : Word)
  | dot
  | less
  | greater
  | comma
  | question
  | openBracket
  | closeBracket

/-- The text of a token. -/
def TypeToken.chars : TypeToken → List Char
  | .word name => name.chars
  | .dot => ['.']
  | .less => ['<']
  | .greater => ['>']
  | .comma => [',']
  | .question => ['?']
  | .openBracket => ['[']
  | .closeBracket => [']']

/-- The word before the upper bound of a wildcard. -/
def extendsWord : Word := ⟨"extends".toList, by decide +kernel⟩

/-- The word before the lower bound of a wildcard. -/
def superWord : Word := ⟨"super".toList, by decide +kernel⟩

/-- The brackets behind a type. -/
def bracketTokens (dimensions : Nat) : List TypeToken :=
  (List.replicate dimensions [.openBracket, .closeBracket]).flatten

mutual

/-- The tokens of a type. -/
def WrittenType.tokens : WrittenType → List TypeToken
  | ⟨first, more, dimensions⟩ =>
      first.tokens ++ furtherSegments more ++ bracketTokens dimensions

/-- The tokens of the segments behind the first one. -/
def furtherSegments : List Segment → List TypeToken
  | [] => []
  | next :: more => [.dot] ++ next.tokens ++ furtherSegments more

/-- The tokens of a segment. -/
def Segment.tokens : Segment → List TypeToken
  | .plain name => [.word name]
  | .generic name arguments => [.word name, .less] ++ argumentTokens arguments ++ [.greater]

/-- The tokens between the angle brackets of a segment. -/
def argumentTokens : List TypeArgument → List TypeToken
  | [] => []
  | first :: more => first.tokens ++ furtherArguments more

/-- The tokens of the arguments behind the first one. -/
def furtherArguments : List TypeArgument → List TypeToken
  | [] => []
  | next :: more => [.comma] ++ next.tokens ++ furtherArguments more

/-- The tokens of a type argument. -/
def TypeArgument.tokens : TypeArgument → List TypeToken
  | .type type => type.tokens
  | .wildcard => [.question]
  | .extends bound => [.question, .word extendsWord] ++ bound.tokens
  | .super bound => [.question, .word superWord] ++ bound.tokens

end

/-- The text of tokens with nothing between them. -/
def glued (tokens : List TypeToken) : List Char := tokens.flatMap (·.chars)

/-- A text prints tokens one behind the other, with any white space around each of them. -/
inductive Prints : List TypeToken → List Char → Prop where
  | done (gap : List Char) (hgap : Text.isBlank gap = true) : Prints [] gap
  | token (gap : List Char) {text : List Char} {t : TypeToken} {tokens : List TypeToken}
      (hgap : Text.isBlank gap = true) (hmore : Prints tokens text) :
      Prints (t :: tokens) (gap ++ t.chars ++ text)

theorem glued_append (ts us : List TypeToken) : glued (ts ++ us) = glued ts ++ glued us :=
  List.flatMap_append

/-! ## The characters of tokens -/

/-- Letters and digits of ASCII lie between `0` and `z`. -/
theorem toNat_of_isAlphanum {c : Char} (h : c.isAlphanum = true) :
    0x30 ≤ c.toNat ∧ c.toNat ≤ 0x7A := by
  have hranges : (decide ('A'.val ≤ c.val ∧ c.val ≤ 'Z'.val)
      || (decide ('a'.val ≤ c.val) && decide (c.val ≤ 'z'.val))
      || (decide ('0'.val ≤ c.val) && decide (c.val ≤ '9'.val))) = true := h
  simp only [Bool.or_eq_true, Bool.and_eq_true, decide_eq_true_eq, UInt32.le_iff_toNat_le,
    UInt32.reduceToNat, Char.reduceVal] at hranges
  show 0x30 ≤ c.val.toNat ∧ c.val.toNat ≤ 0x7A
  omega

/-- No character that may stand in an identifier is white space. -/
theorem isWhiteSpace_of_part {c : Char}
    (h : Unicode.isIdentifierStart c = true ∨ Unicode.isIdentifierPart c = true) :
    Unicode.isWhiteSpace c = false := by
  have hascii (halnum : c.isAlphanum = true) : Unicode.isWhiteSpace c = false :=
    @Unicode.inRanges_eq_false_of_apart [(0x30, 0x7A)] _ _ (by decide)
      (Unicode.inRanges_eq_true_iff.mpr
        ⟨_, List.mem_singleton_self _, toNat_of_isAlphanum halnum⟩)
  simp only [Unicode.isIdentifierStart, Unicode.isIdentifierPart, Bool.or_eq_true, beq_iff_eq] at h
  rcases h with (((halpha | rfl) | rfl) | hstart) | ((((halnum | rfl) | rfl) | hcent) | hpart)
  · exact hascii (by rw [Char.isAlphanum, halpha, Bool.true_or])
  · decide +kernel
  · decide +kernel
  · exact Unicode.inRanges_eq_false_of_apart (by decide +kernel) hstart
  · exact hascii halnum
  · decide +kernel
  · decide +kernel
  · rw [Unicode.isWhiteSpace, hcent]
    decide +kernel
  · exact Unicode.inRanges_eq_false_of_apart (by decide +kernel) hpart

/-- White space is no part of a token. -/
theorem TypeToken.isWhiteSpace_of_mem {t : TypeToken} {c : Char} (h : c ∈ t.chars) :
    Unicode.isWhiteSpace c = false := by
  cases t with
  | word name => exact isWhiteSpace_of_part (name.isWord.part c h)
  | _ =>
      cases List.mem_singleton.mp h
      decide +kernel

/-- Only the dot ends in a dot. -/
theorem TypeToken.getLast?_chars {t : TypeToken} (h : t ≠ .dot) :
    ∃ c, t.chars.getLast? = some c ∧ c ≠ '.' := by
  cases t with
  | word name =>
      have hmem := List.getLast_mem name.isWord.ne_nil
      refine ⟨_, List.getLast?_eq_some_getLast name.isWord.ne_nil, ?_⟩
      intro hdot
      rw [hdot] at hmem
      exact absurd hmem (name.isWord.notMem (by decide +kernel))
  | dot => exact absurd rfl h
  | _ => exact ⟨_, rfl, by decide⟩

/-- What is left of a printed text without its white space are the tokens. -/
theorem Prints.filter {tokens : List TypeToken} {text : List Char} (h : Prints tokens text) :
    text.filter (! Unicode.isWhiteSpace ·) = glued tokens := by
  have hblank {gap : List Char} (hgap : Text.isBlank gap = true) :
      gap.filter (! Unicode.isWhiteSpace ·) = [] := by
    refine List.filter_eq_nil_iff.mpr fun c hc => ?_
    rw [List.all_eq_true.mp hgap c hc]
    decide
  induction h with
  | done gap hgap => exact hblank hgap
  | @token gap text t tokens hgap _ ih =>
      have htoken : t.chars.filter (! Unicode.isWhiteSpace ·) = t.chars := by
        refine List.filter_eq_self.mpr fun c hc => ?_
        rw [TypeToken.isWhiteSpace_of_mem hc]
        rfl
      rw [List.filter_append, List.filter_append, hblank hgap, htoken, ih]
      rfl

/-! ## Tokens behind each other -/

/-- Tokens that the scan passes over while an angle bracket is open. -/
def Vanishes (tokens : List TypeToken) : Prop :=
  ∀ depth rest, TypeName.dropArguments (depth + 1) (glued tokens ++ rest)
    = TypeName.dropArguments (depth + 1) rest

/-- Tokens of which the scan keeps a part while no angle bracket is open. -/
def Leaves (tokens : List TypeToken) (kept : List Char) : Prop :=
  ∀ rest, TypeName.dropArguments 0 (glued tokens ++ rest)
    = kept ++ TypeName.dropArguments 0 rest

/-- No angle bracket opens or closes. -/
def TypeToken.IsQuiet (t : TypeToken) : Prop := '<' ∉ t.chars ∧ '>' ∉ t.chars

/-- A word holds no bracket and no white space. -/
theorem TypeToken.isQuiet_word (name : Word) : (TypeToken.word name).IsQuiet :=
  ⟨name.isWord.notMem (by decide +kernel), name.isWord.notMem (by decide +kernel)⟩

theorem Vanishes.append {ts us : List TypeToken} (ht : Vanishes ts) (hu : Vanishes us) :
    Vanishes (ts ++ us) := by
  intro depth rest
  rw [glued_append, List.append_assoc, ht, hu]

theorem Leaves.append {ts us : List TypeToken} {kept more : List Char} (ht : Leaves ts kept)
    (hu : Leaves us more) : Leaves (ts ++ us) (kept ++ more) := by
  intro rest
  rw [glued_append, List.append_assoc, ht, hu, List.append_assoc]

theorem vanishes_nil : Vanishes [] := fun _ _ => rfl

theorem leaves_nil : Leaves [] [] := fun _ => rfl

/-- Inside of type arguments nothing is kept of a token without angle brackets. -/
theorem vanishes_quiet {t : TypeToken} (h : t.IsQuiet) : Vanishes [t] := by
  intro depth rest
  rw [glued, List.flatMap_singleton]
  exact TypeName.dropArguments_inside h.1 h.2 depth rest

/-- Outside of type arguments a token without angle brackets is kept as it is. -/
theorem leaves_quiet {t : TypeToken} (h : t.IsQuiet) : Leaves [t] t.chars := by
  intro rest
  rw [glued, List.flatMap_singleton]
  exact TypeName.dropArguments_outside (fun _ => TypeToken.isWhiteSpace_of_mem) h.1 h.2 rest

/-- Brackets around what vanishes vanish with it, and the count is what it was. -/
theorem Vanishes.enclosed {ts : List TypeToken} (h : Vanishes ts) :
    Vanishes ([.less] ++ ts ++ [.greater]) := by
  intro depth rest
  rw [glued_append, glued_append, List.append_assoc, List.append_assoc]
  show TypeName.dropArguments (depth + 1 + 1) (glued ts ++ ('>' :: rest)) = _
  rw [h]
  rfl

/-- Outside of brackets, brackets around what vanishes leave nothing. -/
theorem Vanishes.leaves_enclosed {ts : List TypeToken} (h : Vanishes ts) :
    Leaves ([.less] ++ ts ++ [.greater]) [] := by
  intro rest
  rw [glued_append, glued_append, List.append_assoc, List.append_assoc]
  show TypeName.dropArguments (0 + 1) (glued ts ++ ('>' :: rest)) = _
  rw [h]
  rfl

/-! ## Trees -/

theorem TypeToken.isQuiet_dot : TypeToken.dot.IsQuiet := ⟨by decide, by decide⟩

theorem TypeToken.isQuiet_comma : TypeToken.comma.IsQuiet := ⟨by decide, by decide⟩

theorem TypeToken.isQuiet_question : TypeToken.question.IsQuiet := ⟨by decide, by decide⟩

theorem TypeToken.isQuiet_openBracket : TypeToken.openBracket.IsQuiet := ⟨by decide, by decide⟩

theorem TypeToken.isQuiet_closeBracket : TypeToken.closeBracket.IsQuiet := ⟨by decide, by decide⟩

/-- Brackets for dimensions vanish inside of type arguments. -/
theorem vanishes_bracketTokens (dimensions : Nat) : Vanishes (bracketTokens dimensions) := by
  induction dimensions with
  | zero => exact vanishes_nil
  | succ dimensions ih =>
      rw [bracketTokens, List.replicate_succ, List.flatten_cons]
      exact ((vanishes_quiet TypeToken.isQuiet_openBracket).append
        (vanishes_quiet TypeToken.isQuiet_closeBracket)).append ih

/-- Brackets for dimensions are kept outside of type arguments. -/
theorem leaves_bracketTokens (dimensions : Nat) :
    Leaves (bracketTokens dimensions) (List.replicate dimensions ['[', ']']).flatten := by
  induction dimensions with
  | zero => exact leaves_nil
  | succ dimensions ih =>
      rw [bracketTokens, List.replicate_succ, List.flatten_cons]
      exact ((leaves_quiet TypeToken.isQuiet_openBracket).append
        (leaves_quiet TypeToken.isQuiet_closeBracket)).append ih

mutual

/-- **All tokens of a type vanish inside of angle brackets**; by induction on the tree. -/
theorem WrittenType.vanishes : (t : WrittenType) → Vanishes t.tokens
  | ⟨first, more, dimensions⟩ => by
      rw [WrittenType.tokens]
      exact (first.vanishes.append (vanishes_furtherSegments more)).append
        (vanishes_bracketTokens dimensions)

/-- Segments behind the first one vanish with the dots before them. -/
theorem vanishes_furtherSegments : (more : List Segment) → Vanishes (furtherSegments more)
  | [] => by
      rw [furtherSegments]
      exact vanishes_nil
  | next :: more => by
      rw [furtherSegments]
      exact ((vanishes_quiet TypeToken.isQuiet_dot).append next.vanishes).append
        (vanishes_furtherSegments more)

/-- A segment vanishes with its type arguments. -/
theorem Segment.vanishes : (s : Segment) → Vanishes s.tokens
  | .plain name => by
      rw [Segment.tokens]
      exact vanishes_quiet (TypeToken.isQuiet_word name)
  | .generic name arguments => by
      rw [Segment.tokens]
      exact (vanishes_quiet (TypeToken.isQuiet_word name)).append
        (vanishes_argumentTokens arguments).enclosed

/-- Type arguments vanish with the commas between them. -/
theorem vanishes_argumentTokens :
    (arguments : List TypeArgument) → Vanishes (argumentTokens arguments)
  | [] => by
      rw [argumentTokens]
      exact vanishes_nil
  | first :: more => by
      rw [argumentTokens]
      exact first.vanishes.append (vanishes_furtherArguments more)

/-- Type arguments behind the first one vanish with the commas before them. -/
theorem vanishes_furtherArguments :
    (more : List TypeArgument) → Vanishes (furtherArguments more)
  | [] => by
      rw [furtherArguments]
      exact vanishes_nil
  | next :: more => by
      rw [furtherArguments]
      exact ((vanishes_quiet TypeToken.isQuiet_comma).append next.vanishes).append
        (vanishes_furtherArguments more)

/-- A type argument vanishes, be it a type or a wildcard. -/
theorem TypeArgument.vanishes : (a : TypeArgument) → Vanishes a.tokens
  | .type type => by
      rw [TypeArgument.tokens]
      exact type.vanishes
  | .wildcard => by
      rw [TypeArgument.tokens]
      exact vanishes_quiet TypeToken.isQuiet_question
  | .extends bound => by
      rw [TypeArgument.tokens]
      exact ((vanishes_quiet TypeToken.isQuiet_question).append
        (vanishes_quiet (TypeToken.isQuiet_word extendsWord))).append bound.vanishes
  | .super bound => by
      rw [TypeArgument.tokens]
      exact ((vanishes_quiet TypeToken.isQuiet_question).append
        (vanishes_quiet (TypeToken.isQuiet_word superWord))).append bound.vanishes

end

/-- **A segment leaves its name**, since its arguments stand inside of angle brackets. -/
theorem Segment.leaves (s : Segment) : Leaves s.tokens s.name.chars := by
  cases s with
  | plain name =>
      rw [Segment.tokens]
      exact leaves_quiet (TypeToken.isQuiet_word name)
  | generic name arguments =>
      have hname := leaves_quiet (TypeToken.isQuiet_word name)
      rw [Segment.tokens]
      have h := hname.append (vanishes_argumentTokens arguments).leaves_enclosed
      rw [List.append_nil] at h
      exact h

/-- Segments behind the first one leave their names with the dots before them. -/
theorem leaves_furtherSegments (more : List Segment) :
    Leaves (furtherSegments more) (more.flatMap fun next => '.' :: next.name.chars) := by
  induction more with
  | nil =>
      rw [furtherSegments]
      exact leaves_nil
  | cons next more ih =>
      rw [furtherSegments, List.flatMap_cons]
      exact ((leaves_quiet TypeToken.isQuiet_dot).append next.leaves).append ih

/-- A type leaves its raw name. -/
theorem WrittenType.leaves (t : WrittenType) : Leaves t.tokens t.rawName := by
  cases t with
  | mk first more dimensions =>
      rw [WrittenType.tokens, WrittenType.rawName, List.map_cons, Text.joinWith, List.flatMap_map]
      exact (first.leaves.append (leaves_furtherSegments more)).append
        (leaves_bracketTokens dimensions)

/-! ## The last token -/

/-- The last token, if there is one, is no dot. -/
def EndsSolid (tokens : List TypeToken) : Prop := tokens.getLast? ≠ some .dot

theorem EndsSolid.append {ts us : List TypeToken} (ht : EndsSolid ts) (hu : EndsSolid us) :
    EndsSolid (ts ++ us) := by
  rw [EndsSolid, List.getLast?_append]
  cases hlast : us.getLast? with
  | none => exact ht
  | some t => exact fun heq => hu (hlast.trans heq)

/-- A segment ends in its name or in an angle bracket, whatever stands before it. -/
theorem Segment.endsSolid (s : Segment) (before : List TypeToken) :
    EndsSolid (before ++ s.tokens) := by
  cases s with
  | plain name =>
      rw [Segment.tokens, EndsSolid, List.getLast?_concat]
      exact nofun
  | generic name arguments =>
      rw [Segment.tokens, EndsSolid, ← List.append_assoc, List.getLast?_concat]
      exact nofun

theorem endsSolid_furtherSegments (more : List Segment) : EndsSolid (furtherSegments more) := by
  induction more with
  | nil =>
      rw [furtherSegments]
      exact nofun
  | cons next more ih =>
      rw [furtherSegments]
      exact (next.endsSolid [.dot]).append ih

theorem endsSolid_bracketTokens (dimensions : Nat) : EndsSolid (bracketTokens dimensions) := by
  induction dimensions with
  | zero => exact nofun
  | succ dimensions ih =>
      rw [bracketTokens, List.replicate_succ, List.flatten_cons]
      exact EndsSolid.append nofun ih

/-- A type ends with a character of its own. -/
theorem WrittenType.endsSolid (t : WrittenType) : EndsSolid t.tokens := by
  cases t with
  | mk first more dimensions =>
      rw [WrittenType.tokens]
      exact ((first.endsSolid []).append (endsSolid_furtherSegments more)).append
        (endsSolid_bracketTokens dimensions)

/-- The text of such tokens does not end in a dot either. -/
theorem EndsSolid.getLast?_glued {tokens : List TypeToken} (h : EndsSolid tokens) :
    (glued tokens).getLast? ≠ some '.' := by
  cases hlast : tokens.getLast? with
  | none =>
      rw [List.getLast?_eq_none_iff.mp hlast]
      exact nofun
  | some t =>
      obtain ⟨front, rfl⟩ := List.getLast?_eq_some_iff.mp hlast
      obtain ⟨c, hc, hne⟩ := TypeToken.getLast?_chars fun hdot => h (hdot ▸ hlast)
      rw [glued_append, List.getLast?_append, glued, List.flatMap_singleton, hc]
      simpa using hne

/-- **The erased name of a written type is its raw name**: the names of its segments with dots
    between them and `[]` for each dimension, whatever its type arguments are and wherever white
    space stands between its tokens. -/
theorem erased_of_prints (t : WrittenType) (text : String)
    (h : Prints t.tokens text.toList) :
    TypeName.erased text = ⟨String.ofList t.rawName⟩ := by
  have hlast := t.endsSolid.getLast?_glued
  rw [← h.filter] at hlast
  have hscan : TypeName.dropArguments 0 (glued t.tokens) = t.rawName := by
    have hleaves := t.leaves []
    rw [List.append_nil] at hleaves
    exact hleaves.trans (List.append_nil _)
  rw [TypeName.erased, TypeName.erase_eq hlast, h.filter, hscan]

/-- The type `Outer<?, ? super int[]>.Inner<>[][]`, written over several lines. -/
theorem erased_of_prints_nested :
    ∃ t : WrittenType,
      Prints t.tokens " Outer < ? ,\n? super int[] > . Inner<>[\t] []\n".toList
      ∧ TypeName.erased " Outer < ? ,\n? super int[] > . Inner<>[\t] []\n"
        = ⟨"Outer.Inner[][]"⟩ := by
  let outer : Word := ⟨"Outer".toList, by decide +kernel⟩
  let inner : Word := ⟨"Inner".toList, by decide +kernel⟩
  let int : Word := ⟨"int".toList, by decide +kernel⟩
  let bound : TypeArgument := .super ⟨.plain int, [], 1⟩
  let t : WrittenType := ⟨.generic outer [.wildcard, bound], [.generic inner []], 2⟩
  have hprints : Prints t.tokens " Outer < ? ,\n? super int[] > . Inner<>[\t] []\n".toList :=
    .token [' '] rfl <| .token [' '] rfl <| .token [' '] rfl <| .token [' '] rfl <|
    .token ['\n'] rfl <| .token [' '] rfl <| .token [' '] rfl <| .token [] rfl <|
    .token [] rfl <| .token [' '] rfl <| .token [' '] rfl <| .token [' '] rfl <|
    .token [] rfl <| .token [] rfl <| .token [] rfl <| .token ['\t'] rfl <|
    .token [' '] rfl <| .token [] rfl <| .done ['\n'] rfl
  refine ⟨t, hprints, ?_⟩
  rw [erased_of_prints t _ hprints]
  decide +kernel

end Java

end BeanMapper
