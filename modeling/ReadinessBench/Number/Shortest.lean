import ReadinessBench.Number.Binary64

/-!
# The fewest digits that read back

A binary number is written with the fewest decimal digits that still read back to it. Of the
decimals of that length that read back, the nearest is taken, and of two equally near the larger.

The search walks decimal grids from coarse to fine. On each grid only the two neighbours of the
number can be the answer: if any point of the grid reads back, one of them does.
-/

namespace ReadinessBench

/-- The number `digits * 10 ^ exponent`. -/
structure Decimal where
  digits : Nat
  exponent : Int
  deriving DecidableEq, Repr

namespace Decimal

def zero : Decimal := ⟨0, 0⟩

end Decimal

namespace Binary64

/-- The reals that read back to a number, all over one denominator: the number itself is
`center / den`, the interval goes from `low / den` to `high / den`. -/
structure Basin where
  low : Nat
  center : Nat
  high : Nat
  den : Nat
  /-- Whether the two ends belong to the interval. -/
  closed : Bool
  deriving DecidableEq, Repr

/-- Half-way to the number below and to the number above. Below the least mantissa the numbers
lie twice as close. The ends read back exactly if the mantissa is even. -/
def basin (x : Binary64) : Basin :=
  let e := x.exponent - 2
  let up := Nat.pow 2 e.toNat
  let m := 4 * x.mantissa
  { low := (m - if x.mantissa = leastMantissa then 1 else 2) * up
    center := m * up
    high := (m + 2) * up
    den := Nat.pow 2 (-e).toNat
    closed := x.mantissa % 2 = 0 }

/-- Whether `k * 10 ^ e` lies in the interval. -/
def Basin.reads (b : Basin) (k : Nat) (e : Int) : Bool :=
  let point := k * Nat.pow 10 e.toNat * b.den
  let scale := Nat.pow 10 (-e).toNat
  if b.closed then b.low * scale ≤ point && point ≤ b.high * scale
  else b.low * scale < point && point < b.high * scale

/-- The point of the grid `10 ^ e` that stands for the number, if one reads back: the nearer of
the two neighbours of the number, and the upper one if both are equally near. -/
def Basin.onGrid (b : Basin) (e : Int) : Option Nat :=
  let unit := Nat.pow 10 e.toNat * b.den
  let value := b.center * Nat.pow 10 (-e).toNat
  let below := value / unit
  let above := below + 1
  match b.reads below e, b.reads above e with
  | true, true => some (if 2 * (value % unit) < unit then below else above)
  | true, false => some below
  | false, true => some above
  | false, false => none

/-- The first grid, from `10 ^ e` downwards, that has a point for the number. -/
def Basin.search (b : Basin) (e : Int) : Nat → Decimal
  | 0 => ⟨b.center * Nat.pow 10 (-e).toNat / (Nat.pow 10 e.toNat * b.den), e⟩
  | fuel + 1 =>
    match b.onGrid e with
    | some k => ⟨k, e⟩
    | none => b.search (e - 1) fuel

/-- The fewest decimal digits that read back to the number. The search starts above the number
and ends at the latest on the grid that contains it. -/
def shortest (x : Binary64) : Decimal :=
  if x.mantissa = 0 then Decimal.zero
  else
    let b := x.basin
    let top := (Nat.toDigits 10 (b.center / b.den)).length
    b.search top (top + (2 - x.exponent).toNat + 1)

end Binary64

end ReadinessBench
