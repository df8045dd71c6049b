import ReadinessBench.Number.Shortest

/-!
# Decimals as text

Two ways to write a decimal. The report writes it positionally, whatever its size, and a whole
number without a point. The log marks every number as a fraction, `2.0`, and uses an exponent for
the very large and the very small.
-/

namespace ReadinessBench

namespace Decimal

/-- The decimal without trailing zeros among its digits. -/
def trimmed (d : Decimal) : Decimal :=
  if d.digits = 0 then zero else go d.digits d.exponent d.digits
where
  /-- Takes one trailing zero after the other; the digits themselves bound their number. -/
  go (k : Nat) (e : Int) : Nat → Decimal
    | 0 => ⟨k, e⟩
    | fuel + 1 => if k % 10 = 0 then go (k / 10) (e + 1) fuel else ⟨k, e⟩

/-- The digits of `n`, at least `width` of them, filled up with zeros in front. -/
def paddedDigits (n width : Nat) : List Char :=
  let ds := Nat.toDigits 10 n
  List.replicate (width - ds.length) '0' ++ ds

/-- All digits before and behind the point; no point if nothing stands behind it. -/
def positional (d : Decimal) : List Char :=
  let t := d.trimmed
  if 0 ≤ t.exponent then
    if t.digits = 0 then ['0'] else Nat.toDigits 10 t.digits ++ List.replicate t.exponent.toNat '0'
  else
    let places := (-t.exponent).toNat
    let unit := Nat.pow 10 places
    Nat.toDigits 10 (t.digits / unit) ++ '.' :: paddedDigits (t.digits % unit) places

/-- One digit, then a point and the others if there are any, then the power of ten. -/
def scientific (d : Decimal) : List Char :=
  let t := d.trimmed
  let ds := Nat.toDigits 10 t.digits
  let power := t.exponent + (ds.length - 1 : Nat)
  let mantissa := match ds with
    | [] => []
    | [x] => [x]
    | x :: rest => x :: '.' :: rest
  mantissa ++ 'e' :: (toString power).toList

/-- The power of ten of the leading digit. -/
def magnitude (d : Decimal) : Int :=
  d.exponent + ((Nat.toDigits 10 d.digits).length - 1 : Nat)

/-- Numbers of the report: positional. -/
def reportText (d : Decimal) : String :=
  String.ofList d.positional

/-- Numbers of the log: positional from `10^-4` to below `10^16`, with a point in any case. -/
def logText (d : Decimal) : String :=
  if d.digits ≠ 0 ∧ (d.magnitude < -4 ∨ 16 ≤ d.magnitude) then String.ofList d.scientific
  else
    let text := d.positional
    String.ofList (if text.contains '.' then text else text ++ ['.', '0'])

end Decimal

end ReadinessBench
