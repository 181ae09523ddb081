import BeanMapper.FileSystem.State
import Mathlib.Data.List.Infix

/-!
# Climbing — the directories that the steps of a path pass

    Names lead from one directory to another, one step after the other, and
    the directories on their way, the last one first, are what a search along
    them looks into (`climb`).  A step up is no step back, so these are not
    always the directories above: the steps of `x/..` pass `x`, and the steps
    of a relative path pass nothing above the directory that it starts from.

    What an upward search should find is the nearest marked directory at or
    above the one where it starts (`IsNearest`).  The first marked directory
    that is passed is this one exactly if it is passed at all and no marked
    directory off the way up comes before (`find?_climb_iff`).  The heart is
    `mem_climb`: steps that lead into the subtree of a directory from outside
    pass that directory, so a directory at or above is never passed before
    those between. -/

namespace BeanMapper.FileSystem

variable {names : List String} {start d e : Place}

/-! ## Steps through directories -/

/-- The directory that names lead to, one step after the other. -/
def lead (start : Place) (names : List String) : Place :=
  names.foldl (fun place name => if name = ".." then place.dropLast else place ++ [name]) start

/-- The directories that names pass on their way, the last one first. -/
def climb (start : Place) (names : List String) : List Place :=
  names.inits.reverse.map (lead start)

/-- The directories that a path passes before its last step, the last one first. -/
def passed (fs : FileSystem) (path : String) : List Place :=
  climb (fs.startOf path) (Path.steps path).dropLast

@[simp] theorem lead_nil (start : Place) : lead start [] = start := rfl

@[simp] theorem lead_append (start : Place) (names more : List String) :
    lead start (names ++ more) = lead (lead start names) more :=
  List.foldl_append

theorem lead_singleton (start : Place) (name : String) :
    lead start [name] = if name = ".." then start.dropLast else start ++ [name] := rfl

/-- Without a name for the parent, names lead further down only. -/
theorem lead_of_notMem (h : ".." ∉ names) : lead start names = start ++ names := by
  induction names generalizing start with
  | nil => rw [lead_nil, List.append_nil]
  | cons name names ih =>
      obtain ⟨hname, hnames⟩ := not_or.mp (List.mem_cons.not.mp h)
      rw [← List.singleton_append, lead_append, lead_singleton, if_neg (Ne.symm hname), ih hnames,
        List.append_assoc]

@[simp] theorem climb_nil (start : Place) : climb start [] = [start] := rfl

/-- Climbing starts where all names lead and goes on without the last of them. -/
@[simp] theorem climb_concat (start : Place) (names : List String) (name : String) :
    climb start (names ++ [name]) = lead start (names ++ [name]) :: climb start names := by
  rw [climb, List.inits_append]
  simp [climb]

/-- The first hit of a climb is where the names lead, or is found without the last name. -/
theorem find?_climb (q : Place → Bool) (start : Place) (names : List String) :
    (climb start names).find? q
      = if q (lead start names) then some (lead start names)
        else (climb start names.dropLast).find? q := by
  rcases names.eq_nil_or_concat with rfl | ⟨names, name, rfl⟩
  · cases hq : q start <;> simp [hq]
  · rw [List.concat_eq_append, climb_concat, List.dropLast_concat, List.find?_cons]
    cases q (lead start (names ++ [name])) <;> rfl

theorem mem_climb_iff : e ∈ climb start names ↔ ∃ front, front <+: names ∧ lead start front = e := by
  simp [climb]

/-- **Steps into the subtree of a directory pass that directory**, if they start there or outside
    it. -/
theorem mem_climb (hin : d <+: lead start names) (hout : d = start ∨ ¬ d <+: start) :
    d ∈ climb start names := by
  induction names using List.reverseRecOn with
  | nil =>
      rcases hout with rfl | hout
      · exact List.mem_singleton_self d
      · exact absurd hin hout
  | append_singleton names name ih =>
      rw [climb_concat, List.mem_cons]
      rw [lead_append, lead_singleton] at hin ⊢
      by_cases hname : name = ".."
      · -- a step up leaves a directory in the subtree, so the steps before it led there
        rw [if_pos hname] at hin
        exact .inr (ih (hin.trans (List.dropLast_prefix _)))
      · rw [if_neg hname] at hin ⊢
        exact (List.prefix_concat_iff.mp hin).imp_right ih

/-- Behind a directory that is passed, the names lead on from there. -/
theorem exists_of_climb {before after : List Place} (h : climb start names = before ++ d :: after) :
    ∃ front rest, front ++ rest = names ∧ lead start front = d ∧ climb d rest = before ++ [d] := by
  induction names using List.reverseRecOn generalizing before with
  | nil =>
      cases before with
      | nil =>
          cases h
          exact ⟨[], [], rfl, rfl, rfl⟩
      | cons first before => simp at h
  | append_singleton names name ih =>
      rw [climb_concat] at h
      cases before with
      | nil =>
          cases h
          exact ⟨names ++ [name], [], List.append_nil _, rfl, rfl⟩
      | cons first before =>
          obtain ⟨hfirst, hrest⟩ := List.cons.inj h
          obtain ⟨front, rest, rfl, hd, hclimb⟩ := ih hrest
          refine ⟨front, rest ++ [name], (List.append_assoc front rest [name]).symm, hd, ?_⟩
          rw [climb_concat, hclimb, ← hfirst, ← hd, ← lead_append, List.append_assoc]
          rfl

/-! ## The nearest directory -/

section Nearest

variable {marked : Place → Bool} {dir : Place}

/-- The nearest marked directory at or above a directory. -/
structure IsNearest (marked : Place → Bool) (dir d : Place) : Prop where
  /-- It stands at or above the directory. -/
  above : d <+: dir
  /-- It is marked. -/
  isMarked : marked d = true
  /-- No other marked directory stands between them. -/
  nearest : ∀ e, e <+: dir → marked e = true → e <+: d

/-- There is at most one nearest place. -/
theorem IsNearest.unique (h : IsNearest marked dir d) (h' : IsNearest marked dir e) : d = e :=
  (h'.nearest d h.above h.isMarked).eq_of_length_le
    (h.nearest e h'.above h'.isMarked).length_le

/-- A place that is not marked hands the search on to the place above. -/
theorem isNearest_concat_iff {name : String} (h : marked (dir ++ [name]) = false) :
    IsNearest marked (dir ++ [name]) d ↔ IsNearest marked dir d := by
  have hbelow : ∀ e, e <+: dir ++ [name] → marked e = true → e <+: dir := fun e he hmarked =>
    (List.prefix_concat_iff.mp he).resolve_left fun heq => by simp [heq, h] at hmarked
  constructor
  · intro hd
    exact ⟨hbelow d hd.above hd.isMarked, hd.isMarked,
      fun e he hmarked => hd.nearest e (he.trans (List.prefix_append _ _)) hmarked⟩
  · intro hd
    exact ⟨hd.above.trans (List.prefix_append _ _), hd.isMarked,
      fun e he hmarked => hd.nearest e (hbelow e he hmarked) hmarked⟩

/-- **The nearest marked directory** is the first marked one of a directory and those above it. -/
theorem isNearest_iff : IsNearest marked dir d ↔ dir.inits.reverse.find? marked = some d := by
  induction dir using List.reverseRecOn with
  | nil =>
      rw [List.inits, List.reverse_singleton, List.find?_singleton]
      constructor
      · intro hd
        obtain rfl := List.prefix_nil.mp hd.above
        rw [if_pos hd.isMarked]
      · intro hd
        obtain ⟨hmarked, rfl⟩ := (Option.ite_none_right_eq_some.mp hd).imp_right Option.some.inj
        exact ⟨List.prefix_rfl, hmarked, fun e he _ => he⟩
  | append_singleton dir name ih =>
      have hinits : (dir ++ [name]).inits.reverse = (dir ++ [name]) :: dir.inits.reverse := by
        rw [List.inits_append]
        simp
      rw [hinits]
      cases hdir : marked (dir ++ [name]) with
      | false => rw [isNearest_concat_iff hdir, ih, List.find?_cons, hdir]
      | true =>
          have hself : IsNearest marked (dir ++ [name]) (dir ++ [name]) :=
            ⟨List.prefix_rfl, hdir, fun e he _ => he⟩
          rw [List.find?_cons_of_pos hdir]
          exact ⟨fun hd => congrArg some (hself.unique hd), fun hd => Option.some.inj hd ▸ hself⟩

/-- There is a nearest directory, unless none is marked. -/
theorem exists_isNearest_or (marked : Place → Bool) (dir : Place) :
    (∃ d, IsNearest marked dir d) ∨ ∀ d, d <+: dir → marked d = false := by
  cases hfirst : dir.inits.reverse.find? marked with
  | some d => exact .inl ⟨d, isNearest_iff.mpr hfirst⟩
  | none =>
      refine .inr fun d hd => Bool.eq_false_iff.mpr ?_
      exact List.find?_eq_none.mp hfirst d (List.mem_reverse.mpr ((List.mem_inits d dir).mpr hd))

/-- A search for the nearest marked directory answers as it should. -/
structure FindsNearest {α : Type} (Denotes : α → Place → Prop) (marked : Place → Bool)
    (dir : Place) (found : Option α) : Prop where
  /-- The nearest marked directory is found. -/
  some : ∀ d, IsNearest marked dir d → ∃ a, found = some a ∧ Denotes a d
  /-- Nothing is found if no directory at or above is marked. -/
  none : (∀ d, d <+: dir → marked d = false) → found = none

/-- The nearest marked directory is the first marked one among those that are passed. -/
structure MeetsNearest (marked : Place → Bool) (dirs : List Place) (dir : Place) : Prop where
  /-- The nearest marked directory is passed. -/
  reached : ∀ d, IsNearest marked dir d → d ∈ dirs
  /-- A marked directory that is not at or above is passed only behind one that is. -/
  straight : ∀ before d after, dirs = before ++ d :: after → marked d = true →
    d <+: dir ∨ ∃ e ∈ before, marked e = true ∧ e <+: dir

/-- The first marked directory that is passed, if it stands at or above, is the nearest one. -/
theorem isNearest_of_find?_climb (h : (climb start names).find? marked = some d)
    (habove : d <+: lead start names) : IsNearest marked (lead start names) d := by
  obtain ⟨hmarked, before, after, hclimb, hbefore⟩ := List.find?_eq_some_iff_append.mp h
  refine ⟨habove, hmarked, fun e he hmarkede => ?_⟩
  obtain ⟨front, rest, rfl, hd, hrest⟩ := exists_of_climb hclimb
  rw [lead_append, hd] at habove he
  rcases List.prefix_or_prefix_of_prefix he habove with hed | hde
  · exact hed
  · -- the steps behind `d` lead into the subtree of `e`, so `e` is `d` or comes in front of it
    have hmem := mem_climb he (or_iff_not_imp_right.mpr fun hin =>
      (not_not.mp hin).eq_of_length_le hde.length_le)
    rw [hrest, List.mem_append, List.mem_singleton] at hmem
    rcases hmem with hmem | rfl
    · exact absurd hmarkede (by simpa using hbefore e hmem)
    · exact List.prefix_rfl

/-- **The first marked directory that is passed is the nearest one** exactly if that one is passed
    and no marked directory off the way up is passed before. -/
theorem find?_climb_iff :
    (∀ d, (climb start names).find? marked = some d ↔ IsNearest marked (lead start names) d)
      ↔ MeetsNearest marked (climb start names) (lead start names) := by
  constructor
  · intro hfinds
    refine ⟨fun d hd => List.mem_of_find?_eq_some ((hfinds d).mpr hd),
      fun before d after hclimb hmarked => ?_⟩
    cases hfirst : before.find? marked with
    | none =>
        refine .inl ((hfinds d).mp ?_).above
        rw [hclimb, List.find?_append, hfirst, Option.none_or, List.find?_cons_of_pos hmarked]
    | some e =>
        refine .inr ⟨e, List.mem_of_find?_eq_some hfirst, List.find?_some hfirst, ?_⟩
        refine ((hfinds e).mp ?_).above
        rw [hclimb, List.find?_append, hfirst, Option.some_or]
  · intro hmeets d
    have hnearest : ∀ e, (climb start names).find? marked = some e →
        IsNearest marked (lead start names) e := fun e he => by
      obtain ⟨hmarked, before, after, hclimb, hbefore⟩ := List.find?_eq_some_iff_append.mp he
      refine isNearest_of_find?_climb he ?_
      refine (hmeets.straight before e after hclimb hmarked).resolve_right ?_
      rintro ⟨f, hf, hmarkedf, -⟩
      exact absurd hmarkedf (by simpa using hbefore f hf)
    refine ⟨hnearest d, fun hd => ?_⟩
    cases hfirst : (climb start names).find? marked with
    | none =>
        have hnone := List.find?_eq_none.mp hfirst d (hmeets.reached d hd)
        exact absurd hd.isMarked hnone
    | some e => rw [(hnearest e hfirst).unique hd]

/-- **What an upward search finds is the nearest marked directory** exactly if the directories that
    are passed meet it. -/
theorem findsNearest_iff {α : Type} {Denotes : α → Place → Prop} {found : Option α}
    (hnone : found = none ↔ (climb start names).find? marked = none)
    (hsome : ∀ a, found = some a →
      ∃ d, (climb start names).find? marked = some d ∧ ∀ e, Denotes a e ↔ e = d) :
    FindsNearest Denotes marked (lead start names) found
      ↔ MeetsNearest marked (climb start names) (lead start names) := by
  rw [← find?_climb_iff]
  constructor
  · intro hfinds d
    have hfound : ∀ e, IsNearest marked (lead start names) e →
        (climb start names).find? marked = some e := fun e he => by
      obtain ⟨a, ha, hdenotes⟩ := hfinds.some e he
      obtain ⟨f, hf, hunique⟩ := hsome a ha
      rw [hf, (hunique e).mp hdenotes]
    refine ⟨fun hd => ?_, hfound d⟩
    rcases exists_isNearest_or marked (lead start names) with ⟨e, he⟩ | hfree
    · rw [hfound e he] at hd
      exact Option.some.inj hd ▸ he
    · rw [hnone.mp (hfinds.none hfree)] at hd
      exact nomatch hd
  · intro hfirst
    constructor
    · intro d hd
      cases hfound : found with
      | none =>
          rw [hnone.mp hfound] at hfirst
          exact nomatch (hfirst d).mpr hd
      | some a =>
          obtain ⟨e, he, hunique⟩ := hsome a hfound
          rw [(hfirst d).mpr hd] at he
          exact ⟨a, rfl, (hunique d).mpr (Option.some.inj he)⟩
    · intro hfree
      refine hnone.mpr ?_
      cases hd : (climb start names).find? marked with
      | none => rfl
      | some d =>
          have hnearest := (hfirst d).mp hd
          exact nomatch (hfree d hnearest.above).symm.trans hnearest.isMarked

/-- **Names without a step up** meet the nearest marked directory exactly if they start at or above
    it. -/
theorem meetsNearest_iff_of_notMem (h : ".." ∉ names) :
    MeetsNearest marked (climb start names) (lead start names)
      ↔ ∀ d, IsNearest marked (lead start names) d → start <+: d := by
  have hmem : ∀ d, d ∈ climb start names → start <+: d ∧ d <+: lead start names := fun d hd => by
    obtain ⟨front, hfront, rfl⟩ := mem_climb_iff.mp hd
    obtain ⟨rest, rfl⟩ := hfront
    rw [List.mem_append, not_or] at h
    rw [lead_append, lead_of_notMem h.1, lead_of_notMem h.2]
    exact ⟨List.prefix_append _ _, List.prefix_append _ _⟩
  constructor
  · intro hmeets d hd
    exact (hmem d (hmeets.reached d hd)).1
  · intro hstart
    refine ⟨fun d hd => mem_climb hd.above ?_, fun before d after hclimb _ => .inl ?_⟩
    · refine or_iff_not_imp_right.mpr fun hin => ?_
      exact (not_not.mp hin).eq_of_length_le (hstart d hd).length_le
    · exact (hmem d (hclimb ▸ by simp)).2

end Nearest

end BeanMapper.FileSystem
