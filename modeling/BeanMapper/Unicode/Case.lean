import BeanMapper.Unicode.CaseRanges

/-!
# Case — lower and upper case of characters and of texts

    The full mappings of the Unicode standard: a letter may map to several
    (`ß` has the upper case `SS`), and one mapping looks around itself: a
    capital sigma that ends a word has the lower case `ς`, any other one `σ`.
    ASCII letters take the short way, which agrees with the tables.
-/

namespace BeanMapper.Unicode

/-- The image of a code point under the rows of a mapping; a code point in no row maps to itself. -/
def mapRuns (runs : List CaseRun) (n : Nat) : Nat :=
  (runs.findSome? fun run => run.map? n).getD n

/-- The image of a character under a mapping given by single letters and special cases. -/
def mapCase (specials : List (Nat × List Nat)) (runs : List CaseRun) (c : Char) : List Char :=
  match specials.lookup c.toNat with
  | some images => images.map Char.ofNat
  | none => [Char.ofNat (mapRuns runs c.toNat)]

/-- The lower case of a character that stands alone. -/
def lowerChar (c : Char) : List Char :=
  if c.toNat < 128 then [c.toLower] else mapCase lowerSpecials lowerRuns c

/-- The upper case of a character. -/
def upperChar (c : Char) : List Char :=
  if c.toNat < 128 then [c.toUpper] else mapCase upperSpecials upperRuns c

/-- Whether a character has the property Cased. -/
def isCased (c : Char) : Bool := inRanges casedRanges c.toNat

/-- Whether a character is passed over when the neighbours of a sigma are looked for. -/
def isCaseIgnorable (c : Char) : Bool := inRanges caseIgnorableRanges c.toNat

/-- Whether the first character that is not passed over is cased. -/
def beginsCased (cs : List Char) : Bool :=
  match cs.dropWhile isCaseIgnorable with
  | [] => false
  | c :: _ => isCased c

/-- The capital letter sigma. -/
def capitalSigma : Char := Char.ofNat 0x3A3

/-- The lower case of a capital sigma between what stands before it (nearest first) and what
    follows: final only if a cased letter stands before it and none follows. -/
def lowerSigma (before after : List Char) : Char :=
  if beginsCased before && !beginsCased after then Char.ofNat 0x3C2 else Char.ofNat 0x3C3

/-- The lower case of a text of which `before` has been read already, nearest character first. -/
def lowerAfter (before : List Char) : List Char → List Char
  | [] => []
  | c :: rest =>
      (if c = capitalSigma then [lowerSigma before rest] else lowerChar c)
        ++ lowerAfter (c :: before) rest

/-- The lower case of a text. -/
def lower (cs : List Char) : List Char := lowerAfter [] cs

/-- The text with its first character in upper case. -/
def capitalize : List Char → List Char
  | [] => []
  | c :: rest => upperChar c ++ rest

end BeanMapper.Unicode
