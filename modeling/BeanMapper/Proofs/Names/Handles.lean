import BeanMapper.Proofs.Names.Suffixes

/-! # Handles — names of anonymous types among other names

    Names of all sorts are texts of one kind, so what keeps a name that is made
    up for an anonymous type apart from one that is written must be in the
    texts:

    * `IsPlain` says that a name has no opening angle bracket in it, and so do
      erased names (`erased_isPlain`) and all suffixes of a plain name;
    * `suffixes_anonymous` says that a handle has no suffix but itself, and
      `anonymous_inj` that it tells its offset;
    * `not_isPlain_anonymous` keeps the two apart. -/

namespace BeanMapper.TypeName

/-- No opening angle bracket stands in a name. -/
def IsPlain (t : TypeName) : Prop := '<' ∉ t.name.toList

variable {s t : TypeName} {m n : Nat}

/-- A suffix of a plain name is plain. -/
theorem IsPlain.suffix (h : t.IsPlain) (hs : s ∈ t.suffixes) : s.IsPlain := by
  rcases mem_suffixes_iff.mp hs with rfl | hdot
  · exact h
  · exact fun hmem => h (hdot.subset (List.mem_cons_of_mem _ hmem))

/-- A plain name is that of no anonymous type. -/
theorem IsPlain.isAnonymous_eq_false (h : t.IsPlain) : t.isAnonymous = false := by
  rw [isAnonymous, Bool.eq_false_iff]
  intro hprefix
  refine h ((List.isPrefixOf_iff_prefix.mp hprefix).subset ?_)
  decide +kernel

/-! ## Erased names -/

/-- Outside of angle brackets none of them is kept; by induction on the text. -/
theorem dropArguments_plain (cs : List Char) : ∀ depth, '<' ∉ dropArguments depth cs := by
  induction cs with
  | nil => exact fun _ => List.not_mem_nil
  | cons c cs ih =>
      intro depth
      rw [dropArguments]
      split
      · exact ih (depth + 1)
      · rename_i hopen
        split
        · exact ih (depth - 1)
        · split
          · intro hmem
            rcases List.mem_cons.mp hmem with rfl | hmem
            · exact hopen rfl
            · exact ih depth hmem
          · exact ih depth

/-- **An erased name is plain**, whatever brackets stand in the text. -/
theorem erased_isPlain (written : String) : (erased written).IsPlain := by
  rw [IsPlain, erased, String.toList_ofList]
  exact dropArguments_plain _ 0

/-! ## Names of anonymous types -/

/-- The text of a handle, character by character. -/
theorem toList_anonymous (n : Nat) :
    (anonymous n).name.toList = anonymousMark.toList ++ (Nat.toDigits 10 n ++ ['>']) := by
  rw [anonymous, String.toList_append, String.toList_append, List.append_assoc,
    Nat.toString_eq_ofList_toDigits, String.toList_ofList]
  rfl

/-- A handle is no plain name. -/
theorem not_isPlain_anonymous (n : Nat) : ¬ (anonymous n).IsPlain := by
  intro h
  refine h ?_
  rw [toList_anonymous]
  exact List.mem_append_left _ (by decide +kernel)

/-- A handle tells the offset that it was made from. -/
theorem anonymous_inj : anonymous m = anonymous n ↔ m = n := by
  constructor
  · intro h
    have htext := congrArg (·.name.toList) h
    simp only [toList_anonymous] at htext
    have hdigits := List.append_cancel_right (List.append_cancel_left htext)
    have hvalue := congrArg (Nat.ofDigitChars 10 · 0) hdigits
    simpa using hvalue
  · exact congrArg anonymous

/-- **A handle has no suffix but itself.** -/
theorem suffixes_anonymous : s ∈ (anonymous n).suffixes ↔ s = anonymous n := by
  rw [mem_suffixes_iff]
  refine or_iff_left fun hdot => ?_
  -- no character of a handle is a dot
  have hmem : '.' ∈ (anonymous n).name.toList := hdot.subset List.mem_cons_self
  rw [toList_anonymous, List.mem_append, List.mem_append] at hmem
  rcases hmem with hmark | hdigit | hclose
  · exact absurd hmark (by decide +kernel)
  · exact absurd (Nat.isDigit_of_mem_toDigits (by decide) (by decide) hdigit) (by decide)
  · exact absurd hclose (by decide)

end BeanMapper.TypeName
