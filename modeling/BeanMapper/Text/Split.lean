/-!
# Splitting — at a separator, and reading a number

    `splitOn` cuts a text wherever a character stands, and `joinWith` is its
    inverse; `splitFirst?` and `splitLast?` cut it at one place only.
    `readWord?` reads an unsigned number of 64 bits: decimal digits, at least
    one, with an optional plus sign in front.
-/

namespace BeanMapper.Text

/-- The parts of a text between the places where `x` stands. -/
def splitOn (x : Char) : List Char → List (List Char)
  | [] => [[]]
  | c :: cs =>
      if c = x then [] :: splitOn x cs
      else match splitOn x cs with
        | [] => [[c]]
        | part :: rest => (c :: part) :: rest

/-- The text made of parts with `x` between them. -/
def joinWith (x : Char) : List (List Char) → List Char
  | [] => []
  | part :: rest => part ++ rest.flatMap fun next => x :: next

/-- The parts of a text before and after the last place where `x` stands. -/
def splitLast? (x : Char) : List Char → Option (List Char × List Char)
  | [] => none
  | c :: cs =>
      match splitLast? x cs with
      | some (before, after) => some (c :: before, after)
      | none => if c = x then some ([], cs) else none

/-- The parts of a text before and after the first place where `x` stands. -/
def splitFirst? (x : Char) : List Char → Option (List Char × List Char)
  | [] => none
  | c :: cs =>
      if c = x then some ([], cs)
      else (splitFirst? x cs).map fun parts => (c :: parts.1, parts.2)

/-- The value of a decimal digit. -/
def digitValue (c : Char) : Nat := c.toNat - 48

/-- The number that a list of decimal digits stands for. -/
def digitsValue (digits : List Char) : Nat :=
  digits.foldl (fun n c => n * 10 + digitValue c) 0

/-- A text without a plus sign at its beginning. -/
def withoutPlus : List Char → List Char
  | '+' :: cs => cs
  | cs => cs

/-- Reads an unsigned number of 64 bits. -/
def readWord? (cs : List Char) : Option Nat :=
  let digits := withoutPlus cs
  if digits ≠ [] ∧ digits.all Char.isDigit ∧ digitsValue digits < Nat.pow 2 64 then
    some (digitsValue digits)
  else
    none

theorem splitOn_ne_nil (x : Char) (cs : List Char) : splitOn x cs ≠ [] := by
  cases cs with
  | nil => simp [splitOn]
  | cons c cs =>
      simp only [splitOn]
      split
      · simp
      · split <;> simp

/-- There is one part more than there are separators. -/
theorem length_splitOn (x : Char) (cs : List Char) :
    (splitOn x cs).length = cs.count x + 1 := by
  induction cs with
  | nil => rfl
  | cons c cs ih =>
      simp only [splitOn]
      by_cases h : c = x
      · simp [h, ih]
      · rw [if_neg h, List.count_cons_of_ne h]
        cases hs : splitOn x cs with
        | nil => exact absurd hs (splitOn_ne_nil x cs)
        | cons part rest => simpa [hs] using ih

/-- Joining the parts gives the text back. -/
theorem joinWith_splitOn (x : Char) (cs : List Char) : joinWith x (splitOn x cs) = cs := by
  induction cs with
  | nil => rfl
  | cons c cs ih =>
      simp only [splitOn]
      cases hs : splitOn x cs with
      | nil => exact absurd hs (splitOn_ne_nil x cs)
      | cons part rest =>
          rw [hs] at ih
          by_cases h : c = x
          · simpa [h, joinWith] using ih
          · simpa [h, joinWith] using ih

/-- Cutting at the last `x` loses nothing but that `x`, and none is left behind it. -/
theorem splitLast?_eq_some {x : Char} {cs a b : List Char} (h : splitLast? x cs = some (a, b)) :
    cs = a ++ x :: b ∧ x ∉ b := by
  induction cs generalizing a b with
  | nil => simp [splitLast?] at h
  | cons c cs ih =>
      simp only [splitLast?] at h
      split at h
      · rename_i p q hp
        cases h
        obtain ⟨rfl, hn⟩ := ih hp
        exact ⟨rfl, hn⟩
      · rename_i hnone
        split at h
        · rename_i hc
          cases h
          subst hc
          refine ⟨rfl, fun hmem => ?_⟩
          clear ih
          induction cs with
          | nil => exact nomatch hmem
          | cons d ds ihd =>
              simp only [splitLast?] at hnone
              split at hnone
              · exact nomatch hnone
              · rename_i hds
                split at hnone
                · exact nomatch hnone
                · rename_i hne
                  rcases List.mem_cons.1 hmem with he | ht
                  · exact hne he.symm
                  · exact ihd hds ht
        · exact nomatch h

end BeanMapper.Text
