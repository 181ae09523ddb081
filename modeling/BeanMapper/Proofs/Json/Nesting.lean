import BeanMapper.Json.Decode
import BeanMapper.Proofs.Json.Scalars

/-!
# Nesting — values of any depth, read to their end

    Wherever a value stands, it is read up to its last character, with blanks
    around it if there are any (`ReadsAs`, `Padded.reads`).  An array is read
    if its items are, and an object if its members are (`readsAs_array`,
    `readsAs_object`); `ValueText` nests these to any depth.

    `readsAs_valueText`: **who passes over a value finds no fault with it.**
    The induction is on values, items and members together.  What a decoder
    takes out of a text is what it takes out of the value in it
    (`text_of_readsAs`). -/

namespace BeanMapper.Json

namespace Draft

variable {c : Char} {cs core gap key value more rest after : List Char} {fuel : Nat} {d : Draft}
  {K P : Draft → Prop} {Q : Items → Prop} {R : Members → Prop}

/-! ## Blanks -/

/-- Only blanks. -/
def IsGap (cs : List Char) : Prop := ∀ c ∈ cs, isBlank c = true

instance : DecidablePred IsGap := fun _ => decidable_of_iff _ List.all_eq_true

/-- No blanks at all are a gap as well. -/
theorem isGap_nil : IsGap [] := fun _ h => nomatch h

/-- A part of a text with blanks around it. -/
inductive Padded (core : List Char) : List Char → Prop where
  | mk {before after : List Char} (hbefore : IsGap before) (hafter : IsGap after) :
      Padded core (before ++ core ++ after)

/-- There may be blanks before a part only. -/
theorem Padded.before (h : IsGap gap) (core : List Char) : Padded core (gap ++ core) :=
  List.append_nil (gap ++ core) ▸ .mk h isGap_nil

/-- A string is padded if the characters that it is made from are. -/
theorem padded_toList {text : String} {before after : List Char} (hbefore : IsGap before)
    (hafter : IsGap after) (h : text = String.ofList (before ++ core ++ after)) :
    Padded core text.toList := by
  rw [h, String.toList_ofList]
  exact .mk hbefore hafter

/-- Blanks in front are skipped with those that follow. -/
theorem skipBlanks_gap (h : IsGap gap) (cs : List Char) : skipBlanks (gap ++ cs) = skipBlanks cs :=
  List.dropWhile_append_of_pos h

/-- Blanks in front of a value do not count, however much fuel there is. -/
theorem readValue_gap (h : IsGap gap) (fuel : Nat) (cs : List Char) :
    readValue fuel (gap ++ cs) = readValue fuel cs := by
  cases fuel with
  | zero => rfl
  | succ fuel => rw [readValue, readValue, skipBlanks_gap h]

/-- A character that stands behind a value. -/
def IsBehind (c : Char) : Prop := c = ',' ∨ c = ':' ∨ c = ']' ∨ c = '\x7d'

/-- What stands behind a value is no blank. -/
theorem IsBehind.isBlank (h : IsBehind c) : isBlank c = false := by
  rcases h with rfl | rfl | rfl | rfl <;> decide

/-- What stands behind a value ends a number. -/
theorem IsBehind.endsNumber (h : IsBehind c) : EndsNumber (c :: cs) := by
  rcases h with rfl | rfl | rfl | rfl <;> exact endsNumber_cons (by decide)

/-- Blanks end a number as well. -/
theorem IsGap.endsNumber (h : IsGap gap) (hcs : EndsNumber cs) : EndsNumber (gap ++ cs) := by
  cases gap with
  | nil => exact hcs
  | cons c gap =>
      have hc := h c List.mem_cons_self
      simp only [Draft.isBlank, Bool.or_eq_true, decide_eq_true_eq] at hc
      rcases hc with ((rfl | rfl) | rfl) | rfl <;> exact endsNumber_cons (by decide)

/-! ## Values that are neither arrays nor objects -/

/-- Wherever a text stands, it is read up to its end, as a draft of a certain form. -/
def ReadsAs (cs : List Char) (P : Draft → Prop) : Prop :=
  ∀ fuel rest, 2 * cs.length + 1 ≤ fuel → EndsNumber rest →
    ∃ d, readValue fuel (cs ++ rest) = (d, some rest) ∧ P d

/-- A draft of a form has any form that follows from it. -/
theorem ReadsAs.mono {P' : Draft → Prop} (h : ReadsAs cs P) (himp : ∀ d, P d → P' d) :
    ReadsAs cs P' := fun fuel rest hfuel hrest =>
  (h fuel rest hfuel hrest).imp fun d hd => ⟨hd.1, himp d hd.2⟩

/-- A padded text is read with the blanks around it. -/
theorem Padded.reads (h : Padded core cs) (hcore : ReadsAs core P) (fuel : Nat)
    (hfuel : 2 * cs.length + 1 ≤ fuel) (hc : IsBehind c) (rest : List Char) :
    ∃ d after, readValue fuel (cs ++ c :: rest) = (d, some after)
      ∧ skipBlanks after = c :: rest ∧ P d := by
  cases h with
  | @mk before after hbefore hafter =>
      simp only [List.length_append] at hfuel
      obtain ⟨d, hd, hP⟩ := hcore fuel (after ++ c :: rest) (by omega)
        (hafter.endsNumber hc.endsNumber)
      refine ⟨d, after ++ c :: rest, ?_, ?_, hP⟩
      · rw [List.append_assoc, List.append_assoc, readValue_gap hbefore, hd]
      · rw [skipBlanks_gap hafter, skipBlanks, List.dropWhile_cons_of_neg (by simp [hc.isBlank])]

/-- A value that is neither an array nor an object is read as a scalar. -/
theorem readsAs_of_readScalar (hhead : ∃ c more, cs = c :: more ∧ isBlank c = false ∧ c ≠ '['
      ∧ c ≠ '\x7b')
    (h : ∀ rest, EndsNumber rest → ∃ d, readScalar (cs ++ rest) = (d, some rest) ∧ P d) :
    ReadsAs cs P := by
  intro fuel rest hfuel hrest
  obtain ⟨fuel, rfl⟩ : ∃ k, fuel = k + 1 := ⟨fuel - 1, by omega⟩
  obtain ⟨d, hd, hP⟩ := h rest hrest
  refine ⟨d, ?_, hP⟩
  obtain ⟨c, more, rfl, hblank, harray, hobject⟩ := hhead
  rw [readValue, skipBlanks, List.cons_append, List.dropWhile_cons_of_neg (by simp [hblank])]
  split
  · rename_i heq
    exact absurd (List.cons.inj heq).1 harray
  · rename_i heq
    exact absurd (List.cons.inj heq).1 hobject
  · exact hd

/-- A string is read as the text that it spells. -/
theorem readsAs_stringText {s : String} (h : StringText s cs) : ReadsAs cs (· = .string s) := by
  have hhead : ∃ c more, cs = c :: more ∧ isBlank c = false ∧ c ≠ '[' ∧ c ≠ '\x7b' := by
    cases h
    exact ⟨_, _, rfl, by decide, by decide, by decide⟩
  exact readsAs_of_readScalar hhead fun rest _ => ⟨_, readScalar_of_stringText h rest, rfl⟩

/-- Anything in quotes is read as a text of some kind. -/
theorem readsAs_quotedText (h : QuotedText cs) : ReadsAs cs IsText := by
  have hhead : ∃ c more, cs = c :: more ∧ isBlank c = false ∧ c ≠ '[' ∧ c ≠ '\x7b' := by
    cases h
    exact ⟨_, _, rfl, by decide, by decide, by decide⟩
  exact readsAs_of_readScalar hhead fun rest _ => readScalar_of_quotedText h rest

/-- A digit is no blank. -/
theorem isBlank_eq_false_of_isDigit (h : c.isDigit = true) : isBlank c = false := by
  rw [Bool.eq_false_iff]
  intro hblank
  simp only [isBlank, Bool.or_eq_true, decide_eq_true_eq] at hblank
  rcases hblank with ((rfl | rfl) | rfl) | rfl <;> exact absurd h (by decide)

/-- A number starts with a minus sign or with a digit. -/
theorem NumberText.exists_head {s : Spelling} (h : NumberText s cs) :
    ∃ c more, cs = c :: more ∧ (c = '-' ∨ c.isDigit = true) := by
  cases h with
  | positive hwhole _ _ =>
      obtain ⟨d, more, rfl⟩ := List.exists_cons_of_ne_nil hwhole.nonempty
      exact ⟨d, _, rfl, .inr (hwhole.isDigit d List.mem_cons_self)⟩
  | negative _ _ _ => exact ⟨'-', _, rfl, .inl rfl⟩

/-- A number is read as its spelling says. -/
theorem readsAs_numberText {s : Spelling} (h : NumberText s cs) :
    ReadsAs cs (· = ofSpelling s) := by
  refine readsAs_of_readScalar ?_ fun rest hrest => ⟨_, readScalar_of_numberText h hrest, rfl⟩
  obtain ⟨c, more, rfl, hc⟩ := h.exists_head
  rcases hc with rfl | hc
  · exact ⟨_, _, rfl, by decide, by decide, by decide⟩
  · refine ⟨_, _, rfl, isBlank_eq_false_of_isDigit hc, ?_, ?_⟩
    · rintro rfl
      exact absurd hc (by decide)
    · rintro rfl
      exact absurd hc (by decide)

/-- A natural number of 64 bits is read as its value. -/
theorem readsAs_natural {n : Nat} (hn : n < 2 ^ 64) :
    ReadsAs (toString n).toList (· = .number (.natural n)) := by
  have hread := readsAs_numberText (numberText_toString n)
  rwa [ofSpelling_toDigits hn] at hread

/-- Who passes over a number does not care for its size. -/
theorem skipFault?_ofSpelling (s : Spelling) : (ofSpelling s).skipFault? = none := by
  rw [ofSpelling]
  split <;> rfl

/-- A truth value. -/
def boolText : Bool → List Char
  | true => ['t', 'r', 'u', 'e']
  | false => ['f', 'a', 'l', 's', 'e']

/-- The word `null` is read as such. -/
theorem readsAs_null : ReadsAs ['n', 'u', 'l', 'l'] (· = .null) :=
  readsAs_of_readScalar ⟨_, _, rfl, by decide, by decide, by decide⟩ fun _ _ => ⟨_, rfl, rfl⟩

/-- The words for the truth values are read as those. -/
theorem readsAs_boolText (b : Bool) : ReadsAs (boolText b) (· = .bool b) := by
  cases b
  all_goals
    exact readsAs_of_readScalar ⟨_, _, rfl, by decide, by decide, by decide⟩
      fun _ _ => ⟨_, rfl, rfl⟩

/-! ## Arrays and objects -/

/-- An array with something in it is read item by item. -/
theorem readValue_array (h : skipBlanks rest = c :: cs) (hc : c ≠ ']') :
    readValue (fuel + 1) ('[' :: rest)
      = (.array (readItems fuel rest).1, (readItems fuel rest).2) := by
  have hopen : skipBlanks ('[' :: rest) = '[' :: rest := rfl
  simp [readValue, hopen, h, hc]

/-- An object with something in it is read member by member. -/
theorem readValue_object (h : skipBlanks rest = c :: cs) (hc : c ≠ '}') :
    readValue (fuel + 1) ('{' :: rest)
      = (.object (readMembers fuel rest).1, (readMembers fuel rest).2) := by
  have hopen : skipBlanks ('{' :: rest) = '{' :: rest := rfl
  simp [readValue, hopen, h, hc]

/-- The last item is the one with the closing bracket behind it. -/
theorem readItems_close (h : readValue fuel cs = (d, some rest))
    (hrest : skipBlanks rest = ']' :: after) :
    readItems (fuel + 1) cs = (.item d .closed, some after) := by
  simp only [readItems, h, hrest]

/-- Behind an item and a comma the next items are read. -/
theorem readItems_comma (h : readValue fuel cs = (d, some rest))
    (hrest : skipBlanks rest = ',' :: after) :
    readItems (fuel + 1) cs = (.item d (readItems fuel after).1, (readItems fuel after).2) := by
  simp only [readItems, h, hrest]

/-- The last member is the one with the closing brace behind it. -/
theorem readMembers_close {key : Draft} {more : List Char} (h : readValue fuel cs = (key, some rest))
    (hrest : skipBlanks rest = ':' :: after) (hvalue : readValue fuel after = (d, some more))
    {final : List Char} (hmore : skipBlanks more = '}' :: final) :
    readMembers (fuel + 1) cs = (.member key d .closed, some final) := by
  simp only [readMembers, h, hrest, hvalue, hmore]

/-- Behind a member and a comma the next members are read. -/
theorem readMembers_comma {key : Draft} {more : List Char} (h : readValue fuel cs = (key, some rest))
    (hrest : skipBlanks rest = ':' :: after) (hvalue : readValue fuel after = (d, some more))
    {next : List Char} (hmore : skipBlanks more = ',' :: next) :
    readMembers (fuel + 1) cs
      = (.member key d (readMembers fuel next).1, (readMembers fuel next).2) := by
  simp only [readMembers, h, hrest, hvalue, hmore]

/-- Wherever the items of an array stand, with the closing bracket behind them, they are read up to
    it. -/
def ItemsReadAs (cs : List Char) (Q : Items → Prop) : Prop :=
  ∀ fuel rest, 2 * cs.length + 2 ≤ fuel →
    ∃ is, readItems fuel (cs ++ ']' :: rest) = (is, some rest) ∧ Q is

/-- Wherever the members of an object stand, with the closing brace behind them, they are read up
    to it. -/
def MembersReadAs (cs : List Char) (R : Members → Prop) : Prop :=
  ∀ fuel rest, 2 * cs.length + 2 ≤ fuel →
    ∃ ms, readMembers fuel (cs ++ '\x7d' :: rest) = (ms, some rest) ∧ R ms

/-- Items of a form have any form that follows from it. -/
theorem ItemsReadAs.mono {Q' : Items → Prop} (h : ItemsReadAs cs Q) (himp : ∀ is, Q is → Q' is) :
    ItemsReadAs cs Q' := fun fuel rest hfuel =>
  (h fuel rest hfuel).imp fun is his => ⟨his.1, himp is his.2⟩

/-- Members of a form have any form that follows from it. -/
theorem MembersReadAs.mono {R' : Members → Prop} (h : MembersReadAs cs R)
    (himp : ∀ ms, R ms → R' ms) : MembersReadAs cs R' := fun fuel rest hfuel =>
  (h fuel rest hfuel).imp fun ms hms => ⟨hms.1, himp ms hms.2⟩

/-- Something stands behind the blanks of a text, and it is no closing bracket or brace. -/
def OpensValue (cs : List Char) : Prop :=
  ∃ gap c more, cs = gap ++ c :: more ∧ IsGap gap ∧ isBlank c = false ∧ c ≠ ']' ∧ c ≠ '\x7d'

/-- What follows does not change how a text starts. -/
theorem OpensValue.append (h : OpensValue cs) (rest : List Char) : OpensValue (cs ++ rest) := by
  obtain ⟨gap, c, more, rfl, hgap, hc⟩ := h
  exact ⟨gap, c, more ++ rest, List.append_assoc _ _ _, hgap, hc⟩

/-- Blanks around a text leave its first other character the same. -/
theorem OpensValue.padded (h : OpensValue core) (hcs : Padded core cs) : OpensValue cs := by
  cases hcs with
  | @mk before after hbefore _ =>
      obtain ⟨gap, c, more, rfl, hgap, hc⟩ := h
      refine ⟨before ++ gap, c, more ++ after, by simp, fun c hmem => ?_, hc⟩
      rcases List.mem_append.mp hmem with hmem | hmem
      · exact hbefore c hmem
      · exact hgap c hmem

/-- Behind its blanks a value starts with a character that closes neither an array nor an object. -/
theorem OpensValue.skipBlanks (h : OpensValue cs) (rest : List Char) :
    ∃ c more, skipBlanks (cs ++ rest) = c :: more ∧ c ≠ ']' ∧ c ≠ '\x7d' := by
  obtain ⟨gap, c, more, rfl, hgap, hblank, hc⟩ := h
  refine ⟨c, more ++ rest, ?_, hc⟩
  rw [List.append_assoc, skipBlanks_gap hgap, List.cons_append, Draft.skipBlanks,
    List.dropWhile_cons_of_neg (by simp [hblank])]

/-- A value alone is read as the only item. -/
theorem itemsReadAs_last (hcore : ReadsAs core P) (hcs : Padded core cs) :
    ItemsReadAs cs fun is => ∃ d, P d ∧ is = .item d .closed := by
  intro fuel rest hfuel
  obtain ⟨fuel, rfl⟩ : ∃ k, fuel = k + 1 := ⟨fuel - 1, by omega⟩
  obtain ⟨d, after, hread, hafter, hP⟩ := hcs.reads hcore fuel (by omega) (.inr (.inr (.inl rfl))) rest
  exact ⟨_, readItems_close hread hafter, d, hP, rfl⟩

/-- A value, a comma and items are read as one item more. -/
theorem itemsReadAs_more (hcore : ReadsAs core P) (hcs : Padded core cs)
    (hmore : ItemsReadAs more Q) :
    ItemsReadAs (cs ++ ',' :: more) fun is => ∃ d is', P d ∧ Q is' ∧ is = .item d is' := by
  intro fuel rest hfuel
  obtain ⟨fuel, rfl⟩ : ∃ k, fuel = k + 1 := ⟨fuel - 1, by omega⟩
  simp only [List.length_append, List.length_cons] at hfuel
  obtain ⟨d, after, hread, hafter, hP⟩ := hcs.reads hcore fuel (by omega) (.inl rfl) (more ++ ']' :: rest)
  obtain ⟨is, his, hQ⟩ := hmore fuel rest (by omega)
  refine ⟨_, ?_, d, is, hP, hQ, rfl⟩
  rw [List.append_assoc, List.cons_append, readItems_comma hread hafter, his]

/-- **An array is read** if its items are. -/
theorem readsAs_array (h : ItemsReadAs cs Q) (hopens : OpensValue cs) :
    ReadsAs ('[' :: (cs ++ [']'])) fun d => ∃ is, Q is ∧ d = .array is := by
  intro fuel rest hfuel _
  simp only [List.length_cons, List.length_append, List.length_nil] at hfuel
  obtain ⟨fuel, rfl⟩ : ∃ k, fuel = k + 1 := ⟨fuel - 1, by omega⟩
  obtain ⟨is, his, hQ⟩ := h fuel rest (by omega)
  obtain ⟨c, more, hskip, hc, -⟩ := hopens.skipBlanks (']' :: rest)
  refine ⟨_, ?_, is, hQ, rfl⟩
  rw [List.cons_append, List.append_assoc, List.singleton_append, readValue_array hskip hc, his]

/-- Nothing but blanks between brackets is the empty array. -/
theorem readsAs_emptyArray (h : IsGap gap) :
    ReadsAs ('[' :: (gap ++ [']'])) (· = .array .closed) := by
  intro fuel rest hfuel _
  obtain ⟨fuel, rfl⟩ : ∃ k, fuel = k + 1 := ⟨fuel - 1, by omega⟩
  have hclose : Draft.skipBlanks (gap ++ ']' :: rest) = ']' :: rest := by
    rw [skipBlanks_gap h]
    rfl
  have hopen : Draft.skipBlanks ('[' :: (gap ++ ']' :: rest)) = '[' :: (gap ++ ']' :: rest) := rfl
  refine ⟨_, ?_, rfl⟩
  rw [List.cons_append, List.append_assoc, List.singleton_append, readValue, hopen]
  simp only [hclose]

/-- A key and a value are read as the only member. -/
theorem membersReadAs_last {k v : List Char} (hkey : ReadsAs key K) (hk : Padded key k)
    (hvalue : ReadsAs value P) (hv : Padded value v) :
    MembersReadAs (k ++ ':' :: v) fun ms => ∃ n d, K n ∧ P d ∧ ms = .member n d .closed := by
  intro fuel rest hfuel
  obtain ⟨fuel, rfl⟩ : ∃ k, fuel = k + 1 := ⟨fuel - 1, by omega⟩
  simp only [List.length_append, List.length_cons] at hfuel
  obtain ⟨n, afterKey, hreadKey, hafterKey, hK⟩ :=
    hk.reads hkey fuel (by omega) (.inr (.inl rfl)) (v ++ '\x7d' :: rest)
  obtain ⟨d, after, hread, hafter, hP⟩ :=
    hv.reads hvalue fuel (by omega) (.inr (.inr (.inr rfl))) rest
  refine ⟨_, ?_, n, d, hK, hP, rfl⟩
  rw [List.append_assoc, List.cons_append]
  exact readMembers_close hreadKey hafterKey hread hafter

/-- A key, a value, a comma and members are read as one member more. -/
theorem membersReadAs_more {k v : List Char} (hkey : ReadsAs key K) (hk : Padded key k)
    (hvalue : ReadsAs value P) (hv : Padded value v) (hmore : MembersReadAs more R) :
    MembersReadAs (k ++ ':' :: (v ++ ',' :: more))
      fun ms => ∃ n d ms', K n ∧ P d ∧ R ms' ∧ ms = .member n d ms' := by
  intro fuel rest hfuel
  obtain ⟨fuel, rfl⟩ : ∃ k, fuel = k + 1 := ⟨fuel - 1, by omega⟩
  simp only [List.length_append, List.length_cons] at hfuel
  obtain ⟨n, afterKey, hreadKey, hafterKey, hK⟩ :=
    hk.reads hkey fuel (by omega) (.inr (.inl rfl)) (v ++ ',' :: (more ++ '\x7d' :: rest))
  obtain ⟨d, after, hread, hafter, hP⟩ :=
    hv.reads hvalue fuel (by omega) (.inl rfl) (more ++ '\x7d' :: rest)
  obtain ⟨ms, hms, hR⟩ := hmore fuel rest (by omega)
  refine ⟨_, ?_, n, d, ms, hK, hP, hR, rfl⟩
  simp only [List.append_assoc, List.cons_append]
  rw [readMembers_comma hreadKey hafterKey hread hafter, hms]

/-- **An object is read** if its members are. -/
theorem readsAs_object (h : MembersReadAs cs R) (hopens : OpensValue cs) :
    ReadsAs ('\x7b' :: (cs ++ ['\x7d'])) fun d => ∃ ms, R ms ∧ d = .object ms := by
  intro fuel rest hfuel _
  simp only [List.length_cons, List.length_append, List.length_nil] at hfuel
  obtain ⟨fuel, rfl⟩ : ∃ k, fuel = k + 1 := ⟨fuel - 1, by omega⟩
  obtain ⟨ms, hms, hR⟩ := h fuel rest (by omega)
  obtain ⟨c, more, hskip, -, hc⟩ := hopens.skipBlanks ('\x7d' :: rest)
  refine ⟨_, ?_, ms, hR, rfl⟩
  rw [List.cons_append, List.append_assoc, List.singleton_append, readValue_object hskip hc, hms]

/-- Nothing but blanks between braces is the empty object. -/
theorem readsAs_emptyObject (h : IsGap gap) :
    ReadsAs ('\x7b' :: (gap ++ ['\x7d'])) (· = .object .closed) := by
  intro fuel rest hfuel _
  obtain ⟨fuel, rfl⟩ : ∃ k, fuel = k + 1 := ⟨fuel - 1, by omega⟩
  have hclose : Draft.skipBlanks (gap ++ '\x7d' :: rest) = '\x7d' :: rest := by
    rw [skipBlanks_gap h]
    rfl
  have hopen : Draft.skipBlanks ('\x7b' :: (gap ++ '\x7d' :: rest))
      = '\x7b' :: (gap ++ '\x7d' :: rest) := rfl
  refine ⟨_, ?_, rfl⟩
  rw [List.cons_append, List.append_assoc, List.singleton_append, readValue, hopen]
  simp only [hclose]

/-! ## Values -/

mutual

/-- A value of any kind and depth. -/
inductive ValueText : List Char → Prop where
  | null : ValueText ['n', 'u', 'l', 'l']
  | bool (b : Bool) : ValueText (boolText b)
  | number {s : Spelling} {cs : List Char} (h : NumberText s cs) : ValueText cs
  | string {cs : List Char} (h : QuotedText cs) : ValueText cs
  | emptyArray {gap : List Char} (h : IsGap gap) : ValueText ('[' :: (gap ++ [']']))
  | array {cs : List Char} (h : ItemsText cs) : ValueText ('[' :: (cs ++ [']']))
  | emptyObject {gap : List Char} (h : IsGap gap) : ValueText ('\x7b' :: (gap ++ ['\x7d']))
  | object {cs : List Char} (h : MembersText cs) : ValueText ('\x7b' :: (cs ++ ['\x7d']))

/-- The items of an array. -/
inductive ItemsText : List Char → Prop where
  | last {core cs : List Char} (h : ValueText core) (hcs : Padded core cs) : ItemsText cs
  | more {core cs more : List Char} (h : ValueText core) (hcs : Padded core cs)
      (hmore : ItemsText more) : ItemsText (cs ++ ',' :: more)

/-- The members of an object; a key may stand there twice. -/
inductive MembersText : List Char → Prop where
  | last {key k value v : List Char} (hkey : QuotedText key) (hk : Padded key k)
      (hvalue : ValueText value) (hv : Padded value v) : MembersText (k ++ ':' :: v)
  | more {key k value v more : List Char} (hkey : QuotedText key) (hk : Padded key k)
      (hvalue : ValueText value) (hv : Padded value v) (hmore : MembersText more) :
      MembersText (k ++ ':' :: (v ++ ',' :: more))

end

/-- A text opens a value if its first character does. -/
theorem opensValue_cons (hblank : isBlank c = false) (harray : c ≠ ']') (hobject : c ≠ '\x7d')
    (cs : List Char) : OpensValue (c :: cs) :=
  ⟨[], c, cs, rfl, isGap_nil, hblank, harray, hobject⟩

/-- A number opens with a minus sign or a digit. -/
theorem NumberText.opensValue {s : Spelling} (h : NumberText s cs) : OpensValue cs := by
  obtain ⟨c, more, rfl, hc⟩ := h.exists_head
  rcases hc with rfl | hc
  · exact opensValue_cons (by decide) (by decide) (by decide) _
  · refine opensValue_cons (isBlank_eq_false_of_isDigit hc) ?_ ?_ _
    · rintro rfl
      exact absurd hc (by decide)
    · rintro rfl
      exact absurd hc (by decide)

/-- A string opens with a quote. -/
theorem StringText.opensValue {s : String} (h : StringText s cs) : OpensValue cs := by
  cases h
  exact opensValue_cons (by decide) (by decide) (by decide) _

/-- Anything in quotes opens with one. -/
theorem QuotedText.opensValue (h : QuotedText cs) : OpensValue cs := by
  cases h
  exact opensValue_cons (by decide) (by decide) (by decide) _

/-- Every value opens with a character that closes nothing. -/
theorem ValueText.opensValue (h : ValueText cs) : OpensValue cs := by
  cases h with
  | bool b => cases b <;> exact opensValue_cons (by decide) (by decide) (by decide) _
  | number h => exact h.opensValue
  | string h => exact h.opensValue
  | _ => exact opensValue_cons (by decide) (by decide) (by decide) _

/-- Items open as the first of them does. -/
theorem ItemsText.opensValue (h : ItemsText cs) : OpensValue cs := by
  cases h with
  | last h hcs => exact h.opensValue.padded hcs
  | more h hcs _ => exact (h.opensValue.padded hcs).append _

/-- Members open as the first of the keys does. -/
theorem MembersText.opensValue (h : MembersText cs) : OpensValue cs := by
  cases h with
  | last hkey hk _ _ => exact (hkey.opensValue.padded hk).append _
  | more hkey hk _ _ _ => exact (hkey.opensValue.padded hk).append _

/-- Who passes over a member finds no fault with a text as its key. -/
theorem skipMembersFault?_member {k : Draft} (hk : IsText k) (hd : d.skipFault? = none)
    (ms : Members) : skipMembersFault? (.member k d ms) = skipMembersFault? ms := by
  cases hk <;> simp only [skipMembersFault?, hd]

mutual

/-- **A value is read up to its last character, and who passes over it finds no fault.** -/
theorem readsAs_valueText : ∀ {cs : List Char}, ValueText cs → ReadsAs cs (·.skipFault? = none)
  | _, .null => readsAs_null.mono <| by
      rintro d rfl
      rfl
  | _, .bool b => (readsAs_boolText b).mono <| by
      rintro d rfl
      rfl
  | _, .number h => (readsAs_numberText h).mono <| by
      rintro d rfl
      exact skipFault?_ofSpelling _
  | _, .string h => (readsAs_quotedText h).mono fun _ => IsText.skipFault?
  | _, .emptyArray h => (readsAs_emptyArray h).mono <| by
      rintro d rfl
      rfl
  | _, .array h => (readsAs_array (itemsReadAs_itemsText h) h.opensValue).mono <| by
      rintro d ⟨is, his, rfl⟩
      exact his
  | _, .emptyObject h => (readsAs_emptyObject h).mono <| by
      rintro d rfl
      rfl
  | _, .object h => (readsAs_object (membersReadAs_membersText h) h.opensValue).mono <| by
      rintro d ⟨ms, hms, rfl⟩
      exact hms

/-- Items are read up to the closing bracket without a fault. -/
theorem itemsReadAs_itemsText : ∀ {cs : List Char}, ItemsText cs →
    ItemsReadAs cs (skipItemsFault? · = none)
  | _, .last h hcs => (itemsReadAs_last (readsAs_valueText h) hcs).mono <| by
      rintro is ⟨d, hd, rfl⟩
      rw [skipItemsFault?, hd, skipItemsFault?]
  | _, .more h hcs hmore =>
      (itemsReadAs_more (readsAs_valueText h) hcs (itemsReadAs_itemsText hmore)).mono <| by
        rintro is ⟨d, is', hd, his, rfl⟩
        rw [skipItemsFault?, hd, his]

/-- Members are read up to the closing brace without a fault. -/
theorem membersReadAs_membersText : ∀ {cs : List Char}, MembersText cs →
    MembersReadAs cs (skipMembersFault? · = none)
  | _, .last hkey hk hvalue hv =>
      (membersReadAs_last (readsAs_quotedText hkey) hk (readsAs_valueText hvalue) hv).mono <| by
        rintro ms ⟨n, d, hn, hd, rfl⟩
        rw [skipMembersFault?_member hn hd, skipMembersFault?]
  | _, .more hkey hk hvalue hv hmore =>
      (membersReadAs_more (readsAs_quotedText hkey) hk (readsAs_valueText hvalue) hv
        (membersReadAs_membersText hmore)).mono <| by
        rintro ms ⟨n, d, ms', hn, hd, hms, rfl⟩
        rw [skipMembersFault?_member hn hd, hms]

end

end Draft

/-! ## Whole texts -/

/-- **What is taken out of a text** is what is taken out of the value in it. -/
theorem Decode.text_of_readsAs {α : Type} (inner : Decoder α) {source : String} {core : List Char}
    {P : Draft → Prop} (hcore : Draft.ReadsAs core P)
    (hsource : Draft.Padded core source.toList) :
    ∃ d, P d ∧ Decode.text inner source = inner d := by
  rw [Decode.text]
  generalize source.toList = cs at hsource
  cases hsource with
  | @mk before after hbefore hafter =>
      have hends : Draft.EndsNumber after :=
        List.append_nil after ▸ hafter.endsNumber Draft.endsNumber_nil
      obtain ⟨d, hd, hP⟩ := hcore (2 * (before ++ core ++ after).length + 2) after
        (by simp only [List.length_append]; omega) hends
      have hend : Draft.skipBlanks after = [] := by
        rw [← List.append_nil after, Draft.skipBlanks_gap hafter]
        rfl
      refine ⟨d, hP, ?_⟩
      rw [Draft.ofChars, List.append_assoc, Draft.readValue_gap hbefore, ← List.append_assoc, hd]
      cases hinner : inner d with
      | error p => simp only [hinner, bind, Except.bind]
      | ok a =>
          simp only [hinner, bind, Except.bind, Option.map_some, hend]
          rfl

end BeanMapper.Json
