import BeanMapper.TypeName
import Mathlib.Data.List.TakeWhile

/-! # Dotted suffixes — the order and the closure of the keys of a name

    The suffixes of a name are the name itself and what stands after each of
    its dots.  They come longest first, a suffix of a suffix is a suffix, and
    all of them end in the same last segment, which is the last and shortest
    of them:

    * `mem_suffixes_iff` says what a suffix is, without the recursion;
    * `suffixes_longest_first` orders them by their length;
    * `suffix_trans` closes them under taking suffixes again;
    * `simpleName_eq_of_mem` and `simpleName_mem` tie them to the last segment;
    * `refersTo_iff` says that one name may denote another exactly if one of
      the two is a suffix of the other, and `denoting_is_sharing_suffixes`
      puts all of this together. -/

namespace BeanMapper

namespace Text

/-- A suffix of a text is the text itself or stands behind a dot at its end. -/
theorem mem_dottedSuffixes_iff {s cs : List Char} :
    s ∈ dottedSuffixes cs ↔ s = cs ∨ ('.' :: s) <:+ cs := by
  rw [dottedSuffixes, List.mem_cons, mem_afterDots_iff]

/-- What stands behind a dot is shorter than the text. -/
theorem length_lt_of_mem_afterDots {s cs : List Char} (h : s ∈ afterDots cs) :
    s.length < cs.length := by
  have hle : ('.' :: s).length ≤ cs.length := (mem_afterDots_iff.mp h).length_le
  rw [List.length_cons] at hle
  exact hle

/-- What stands behind a dot has fewer bytes than the text. -/
theorem byteLength_lt_of_dot_suffix {s cs : List Char} (h : ('.' :: s) <:+ cs) :
    byteLength s < byteLength cs := by
  obtain ⟨before, rfl⟩ := h
  have hdot : 0 < ('.' : Char).utf8Size := Char.utf8Size_pos '.'
  rw [byteLength_append, byteLength_cons]
  omega

/-- Each part behind a dot stands behind a dot of every part before it. -/
theorem afterDots_pairwise (cs : List Char) :
    (afterDots cs).Pairwise (fun a b => b ∈ afterDots a) := by
  induction cs with
  | nil => exact List.Pairwise.nil
  | cons c cs ih =>
      by_cases hc : c = '.'
      · rw [afterDots, if_pos hc]
        exact List.pairwise_cons.mpr ⟨fun s hs => hs, ih⟩
      · rw [afterDots, if_neg hc]
        exact ih

/-- Each suffix of a text stands behind a dot of every suffix before it. -/
theorem dottedSuffixes_pairwise (cs : List Char) :
    (dottedSuffixes cs).Pairwise (fun a b => b ∈ afterDots a) :=
  List.pairwise_cons.mpr ⟨fun _ hs => hs, afterDots_pairwise cs⟩

/-- A suffix of a suffix is a suffix. -/
theorem dottedSuffixes_trans {a b c : List Char} (hab : a ∈ dottedSuffixes b)
    (hbc : b ∈ dottedSuffixes c) : a ∈ dottedSuffixes c := by
  rw [mem_dottedSuffixes_iff] at hab hbc ⊢
  rcases hab with rfl | hab
  · exact hbc
  · refine Or.inr ?_
    rcases hbc with rfl | hbc
    · exact hab
    · exact hab.trans ((List.suffix_cons '.' b).trans hbc)

/-- The last segment only depends on what stands behind a dot. -/
theorem lastSegment_of_dot_suffix {s cs : List Char} (h : ('.' :: s) <:+ cs) :
    lastSegment cs = lastSegment s := by
  obtain ⟨before, rfl⟩ := h
  unfold lastSegment
  rw [List.reverse_append, List.reverse_cons, List.append_assoc, List.singleton_append,
    List.takeWhile_append]
  by_cases hall : (s.reverse.takeWhile (· ≠ '.')).length = s.reverse.length
  · -- no dot in `s`: the search stops at the dot in front of it
    rw [if_pos hall, List.takeWhile_cons_of_neg (by simp), List.append_nil]
    have hwhole : s.reverse.takeWhile (· ≠ '.') = s.reverse :=
      (List.takeWhile_prefix _).eq_of_length hall
    rw [hwhole]
  · rw [if_neg hall]

/-- The last segment of a text is a suffix of it. -/
theorem lastSegment_mem (cs : List Char) : lastSegment cs ∈ dottedSuffixes cs := by
  rw [mem_dottedSuffixes_iff]
  have hsplit : cs.reverse.takeWhile (· ≠ '.') ++ cs.reverse.dropWhile (· ≠ '.') = cs.reverse :=
    List.takeWhile_append_dropWhile
  cases hrest : cs.reverse.dropWhile (· ≠ '.') with
  | nil =>
      rw [hrest, List.append_nil] at hsplit
      refine Or.inl ?_
      rw [lastSegment, hsplit, List.reverse_reverse]
  | cons c before =>
      have hc : c = '.' := by
        have hhead := List.head?_dropWhile_not (· ≠ '.') cs.reverse
        rw [hrest, List.head?_cons] at hhead
        simpa using hhead
      rw [hrest, hc] at hsplit
      refine Or.inr ⟨before.reverse, ?_⟩
      have hback := congrArg List.reverse hsplit
      rw [List.reverse_append, List.reverse_cons, List.append_assoc, List.singleton_append,
        List.reverse_reverse] at hback
      exact hback

theorem dot_notMem_lastSegment (cs : List Char) : '.' ∉ lastSegment cs := by
  intro hmem
  rw [lastSegment, List.mem_reverse] at hmem
  simpa using List.mem_takeWhile_imp hmem

/-- The last suffix of a text is its last segment. -/
theorem getLast?_dottedSuffixes (cs : List Char) :
    (dottedSuffixes cs).getLast? = some (lastSegment cs) := by
  obtain ⟨front, last, hsuffixes⟩ :=
    (dottedSuffixes cs).eq_nil_or_concat.resolve_left (List.cons_ne_nil cs (afterDots cs))
  rw [List.concat_eq_append] at hsuffixes
  have hmem := lastSegment_mem cs
  rw [hsuffixes, List.mem_append, List.mem_singleton] at hmem
  rcases hmem with hfront | rfl
  · -- the last suffix would stand behind a dot of the last segment, which holds none
    have hpairwise := dottedSuffixes_pairwise cs
    rw [hsuffixes, List.pairwise_append] at hpairwise
    have hdot := mem_afterDots_iff.mp (hpairwise.2.2 _ hfront last (List.mem_singleton_self last))
    exact absurd (hdot.subset List.mem_cons_self) (dot_notMem_lastSegment cs)
  · rw [hsuffixes, List.getLast?_concat]

end Text

namespace TypeName

/-- The suffixes of a name are the suffixes of its text. -/
theorem mem_suffixes_iff_toList {s t : TypeName} :
    s ∈ t.suffixes ↔ s.name.toList ∈ Text.dottedSuffixes t.name.toList := by
  rw [suffixes, List.mem_map]
  constructor
  · rintro ⟨cs, hcs, rfl⟩
    rw [String.toList_ofList]
    exact hcs
  · intro h
    exact ⟨s.name.toList, h, by rw [String.ofList_toList]⟩

/-- A suffix of a name is the name itself or stands behind a dot at its end. -/
theorem mem_suffixes_iff {s t : TypeName} :
    s ∈ t.suffixes ↔ s = t ∨ ('.' :: s.name.toList) <:+ t.name.toList := by
  have hname : s = t ↔ s.name.toList = t.name.toList := by
    rw [String.toList_inj]
    exact ⟨congrArg name, fun h => by cases s; cases t; exact congrArg mk h⟩
  rw [mem_suffixes_iff_toList, Text.mem_dottedSuffixes_iff, hname]

/-- A name is a suffix of itself. -/
theorem self_mem_suffixes (t : TypeName) : t ∈ t.suffixes :=
  mem_suffixes_iff.mpr (Or.inl rfl)

/-- A suffix of a suffix is a suffix. -/
theorem suffix_trans {a b c : TypeName} (hab : a ∈ b.suffixes) (hbc : b ∈ c.suffixes) :
    a ∈ c.suffixes := by
  rw [mem_suffixes_iff_toList] at hab hbc ⊢
  exact Text.dottedSuffixes_trans hab hbc

/-- The suffixes of a name get shorter and shorter, in characters and in bytes. -/
theorem suffixes_pairwise (t : TypeName) :
    t.suffixes.Pairwise (fun a b => b.name.length < a.name.length
      ∧ Text.byteLength b.name.toList < Text.byteLength a.name.toList) := by
  rw [suffixes, List.pairwise_map]
  refine (Text.dottedSuffixes_pairwise t.name.toList).imp fun {a b} hmem => ⟨?_, ?_⟩
  · simpa using Text.length_lt_of_mem_afterDots hmem
  · simpa using Text.byteLength_lt_of_dot_suffix (Text.mem_afterDots_iff.mp hmem)

/-- The suffixes of a name come longest first. -/
theorem suffixes_longest_first (t : TypeName) :
    t.suffixes.Pairwise (fun a b => b.name.length < a.name.length) :=
  t.suffixes_pairwise.imp And.left

/-- A name and its suffixes have the same last segment. -/
theorem simpleName_eq_of_mem {s t : TypeName} (h : s ∈ t.suffixes) :
    s.simpleName = t.simpleName := by
  rcases mem_suffixes_iff.mp h with rfl | hdot
  · rfl
  · rw [simpleName, simpleName, Text.lastSegment_of_dot_suffix hdot]

/-- The last segment of a name is one of its suffixes. -/
theorem simpleName_mem (t : TypeName) : ⟨t.simpleName⟩ ∈ t.suffixes := by
  rw [suffixes, List.mem_map]
  exact ⟨Text.lastSegment t.name.toList, Text.lastSegment_mem t.name.toList, rfl⟩

/-- Two names have a suffix in common exactly if their last segments are equal. -/
theorem exists_shared_suffix_iff {s t : TypeName} :
    (∃ k, k ∈ s.suffixes ∧ k ∈ t.suffixes) ↔ s.simpleName = t.simpleName := by
  constructor
  · rintro ⟨k, hs, ht⟩
    rw [← simpleName_eq_of_mem hs, simpleName_eq_of_mem ht]
  · intro heq
    refine ⟨⟨s.simpleName⟩, simpleName_mem s, ?_⟩
    rw [heq]
    exact simpleName_mem t

/-- A suffix of a name is no longer than the name, and as long only if it is the name. -/
theorem length_of_mem_suffixes {s t : TypeName} (h : s ∈ t.suffixes) :
    s = t ∨ s.name.length < t.name.length := by
  rcases mem_suffixes_iff.mp h with heq | hdot
  · exact Or.inl heq
  · have hle := hdot.length_le
    rw [List.length_cons, String.length_toList, String.length_toList] at hle
    exact Or.inr hle

/-- A text ends in another one exactly if that is one of its suffixes. -/
theorem endsIn_iff {short long : List Char} :
    endsIn short long = true ↔ short ∈ Text.dottedSuffixes long := by
  rw [endsIn, Bool.or_eq_true, beq_iff_eq, List.isSuffixOf_iff_suffix, Text.mem_dottedSuffixes_iff]
  exact or_congr eq_comm Iff.rfl

/-- A suffix of a name has no more bytes than the name, and as many only if it is the name. -/
theorem byteLength_of_mem_suffixes {s t : TypeName} (h : s ∈ t.suffixes) :
    s = t ∨ Text.byteLength s.name.toList < Text.byteLength t.name.toList := by
  rcases mem_suffixes_iff.mp h with heq | hdot
  · exact Or.inl heq
  · exact Or.inr (Text.byteLength_lt_of_dot_suffix hdot)

/-- **A written name can denote a declared one exactly if one of the two is a suffix of the
    other.** -/
theorem refersTo_iff {written declared : TypeName} :
    written.refersTo declared = true ↔
      written ∈ declared.suffixes ∨ declared ∈ written.suffixes := by
  rw [refersTo]
  by_cases hle : Text.byteLength written.name.toList ≤ Text.byteLength declared.name.toList
  · rw [if_pos hle, endsIn_iff, ← mem_suffixes_iff_toList]
    refine ⟨Or.inl, ?_⟩
    rintro (h | h)
    · exact h
    · -- the other name is no shorter, so it is the same one
      rcases byteLength_of_mem_suffixes h with rfl | hlt
      · exact h
      · exact absurd hle (Nat.not_le.mpr hlt)
  · rw [if_neg hle, endsIn_iff, ← mem_suffixes_iff_toList]
    refine ⟨Or.inr, ?_⟩
    rintro (h | h)
    · rcases byteLength_of_mem_suffixes h with rfl | hlt
      · exact h
      · exact absurd (Nat.le_of_lt hlt) hle
    · exact h

/-- **The same notion of suffix lies under both.**  A written name can denote a declared one exactly
    if one of the two is a suffix of the other; so every name can denote itself, it does not
    matter which of two names is written, and names that can denote each other end in the same
    segment.  The suffixes of a name are one more than it has dots and get shorter and shorter, in
    characters and in bytes; they start with the name, end with its last segment, and with each of
    them they hold all of its suffixes. -/
theorem denoting_is_sharing_suffixes (s t : TypeName) :
    ((s.refersTo t = true ↔ s ∈ t.suffixes ∨ t ∈ s.suffixes)
      ∧ s.refersTo s = true ∧ s.refersTo t = t.refersTo s
      ∧ (s.refersTo t = true → s.simpleName = t.simpleName))
    ∧ s.suffixes.length = s.name.toList.count '.' + 1
    ∧ s.suffixes.Pairwise (fun a b => b.name.length < a.name.length
        ∧ Text.byteLength b.name.toList < Text.byteLength a.name.toList)
    ∧ s.suffixes.head? = some s ∧ s.suffixes.getLast? = some ⟨s.simpleName⟩
    ∧ ∀ a ∈ s.suffixes, ∀ b ∈ a.suffixes, b ∈ s.suffixes := by
  refine ⟨⟨refersTo_iff, refersTo_iff.mpr (.inl (self_mem_suffixes s)), ?symmetric, ?simple⟩,
    ?count, suffixes_pairwise s, ?first, ?last, fun a ha b hb => suffix_trans hb ha⟩
  case symmetric =>
    rw [Bool.eq_iff_iff, refersTo_iff, refersTo_iff]
    exact or_comm
  case simple =>
    intro hrefers
    rcases refersTo_iff.mp hrefers with hmem | hmem
    · exact simpleName_eq_of_mem hmem
    · exact (simpleName_eq_of_mem hmem).symm
  case count => rw [suffixes, List.length_map, Text.length_dottedSuffixes]
  case first => rw [suffixes, Text.dottedSuffixes, List.map_cons, List.head?_cons, String.ofList_toList]
  case last => rw [suffixes, List.getLast?_map, Text.getLast?_dottedSuffixes, simpleName]; rfl

/-- A name with empty segments can denote what stands behind its first dot, which ends in the same
    empty segment; that segment is a suffix of both. -/
theorem denoting_of_empty_segments :
    (⟨"a..é."⟩ : TypeName).refersTo ⟨".é."⟩ = true
      ∧ (⟨"a..é."⟩ : TypeName).simpleName = (⟨".é."⟩ : TypeName).simpleName
      ∧ (⟨""⟩ : TypeName) ∈ (⟨"a..é."⟩ : TypeName).suffixes := by
  obtain ⟨⟨-, -, -, hsimple⟩, -, -, -, -, hclosed⟩ := denoting_is_sharing_suffixes ⟨"a..é."⟩ ⟨".é."⟩
  have hrefers : (⟨"a..é."⟩ : TypeName).refersTo ⟨".é."⟩ = true := by decide +kernel
  exact ⟨hrefers, hsimple hrefers,
    hclosed ⟨".é."⟩ (by decide +kernel) ⟨""⟩ (by decide +kernel)⟩

end TypeName

end BeanMapper
