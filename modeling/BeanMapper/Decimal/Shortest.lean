/-!
# Shortest decimals — the fewest digits that read back

    A double is `m · 2^q`.  The reals that round to it form an interval around
    it, whose ends belong to it if `m` is even.  Going from coarse decimal
    grids to fine ones, the first grid with a point in the interval gives the
    shortest decimal; of two such points the nearer one is taken.
-/

namespace BeanMapper.Decimal

/-- A positive double as `m · 2^q`, and whether the gap below it is half the gap above. -/
structure Binary where
  /-- The significand. -/
  m : Nat
  /-- The exponent of two. -/
  q : Int
  /-- Whether the next smaller double is only half as far away as the next larger one. -/
  atEdge : Bool

/-- The magnitude of a double by its bits. -/
def Binary.ofFloat (x : Float) : Binary :=
  let bits : Nat := x.toBits.toNat % Nat.pow 2 63
  let exponent : Nat := bits / Nat.pow 2 52
  let fraction : Nat := bits % Nat.pow 2 52
  if exponent = 0 then ⟨fraction, -1074, false⟩
  else ⟨Nat.pow 2 52 + fraction, (exponent : Int) - 1075, fraction = 0 && exponent > 1⟩

/-- Whether `n · a` lies between `lo · b` and `hi · b`, the ends being included on request. -/
def within (ends : Bool) (lo hi n a b : Nat) : Bool :=
  if ends then lo * b ≤ n * a && n * a ≤ hi * b else lo * b < n * a && n * a < hi * b

/-- The nearer of the grid's two points next to a double that reads back as it, if one does.  The
    grid's step is `10^p`, and lengths are measured in quarters of the double's own step. -/
def hit? (x : Binary) (p : Int) : Option Nat :=
  let a := Nat.pow 10 p.toNat * Nat.pow 2 (2 - x.q).toNat
  let b := Nat.pow 10 (-p).toNat * Nat.pow 2 (x.q - 2).toNat
  let lo := if x.atEdge then 4 * x.m - 1 else 4 * x.m - 2
  let hi := 4 * x.m + 2
  let below := 4 * x.m * b / a
  let ends := x.m % 2 == 0
  match within ends lo hi below a b, within ends lo hi (below + 1) a b with
  | true, true =>
      if 4 * x.m * b - below * a ≤ (below + 1) * a - 4 * x.m * b then some below
      else some (below + 1)
  | true, false => some below
  | false, true => some (below + 1)
  | false, false => none

/-- The first hit on the grids `10^(steps - 346)`, `10^(steps - 347)`, …, with its exponent. -/
def search (x : Binary) : Nat → Nat × Int
  | 0 => (0, 0)
  | steps + 1 =>
      let p : Int := (steps : Int) - 345
      match hit? x p with
      | some n => (n, p)
      | none => search x steps

/-- The shortest decimal `n · 10^p` that reads back as a positive double, as the pair `(n, p)`. -/
def shortest (x : Float) : Nat × Int := search (Binary.ofFloat x) 660

/-- Zeros as digits. -/
def zeros (n : Nat) : String := String.ofList (List.replicate n '0')

/-- A number with two digits at least. -/
def twoDigits (n : Nat) : String := if n < 10 then "0" ++ toString n else toString n

/-- The digits `ds` of a decimal, the last one counting `10^p`: positional while the first digit
    counts `10^-5` to `10^15`, else with one digit before the point and an exponent. -/
def layOut (ds : String) (p : Int) : String :=
  let first : Int := p + ds.length - 1
  let split (n : Nat) : String × String :=
    (String.ofList (ds.toList.take n), String.ofList (ds.toList.drop n))
  if -5 ≤ first ∧ first ≤ 15 then
    if 0 ≤ p then ds ++ zeros p.toNat ++ ".0"
    else if 0 ≤ first then
      let (whole, fraction) := split (first.toNat + 1)
      whole ++ "." ++ fraction
    else "0." ++ zeros ((-first).toNat - 1) ++ ds
  else
    let (lead, rest) := split 1
    let point := if rest.isEmpty then lead else lead ++ "." ++ rest
    point ++ "e" ++ (if first < 0 then "-" else "+") ++ twoDigits first.natAbs

/-- The text of a finite double. -/
def floatText (x : Float) : String :=
  let sign := if x.toBits ≥ 0x8000000000000000 then "-" else ""
  if x.toBits.toNat % Nat.pow 2 63 = 0 then sign ++ "0.0"
  else
    let (n, p) := shortest x
    sign ++ layOut (toString n) p

end BeanMapper.Decimal
