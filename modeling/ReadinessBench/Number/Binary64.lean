/-!
# Numbers with 53 significant bits

The measurements are computed in binary floating point with 53 significant bits: every result is
the exact result rounded to the nearest such number, a tie going to the even mantissa. All values
here are at least zero and lie between `2^-70` and `2^100` unless they are zero, so neither
subnormal numbers nor infinities arise and the exponent needs no bound.
-/

namespace ReadinessBench

/-- The number `mantissa * 2 ^ exponent`: zero, or a mantissa of exactly 53 bits. -/
structure Binary64 where
  mantissa : Nat
  exponent : Int
  deriving DecidableEq, Repr

namespace Binary64

def zero : Binary64 := ⟨0, 0⟩

/-- The least mantissa of a number that is not zero, `2^52`. -/
def leastMantissa : Nat := 0x10000000000000

def num (x : Binary64) : Nat := x.mantissa * Nat.pow 2 x.exponent.toNat

def den (x : Binary64) : Nat := Nat.pow 2 (-x.exponent).toNat

/-- The quotient of two whole numbers rounded to a whole number, a tie going to the even one. -/
def roundQuotient (n d : Nat) : Nat :=
  let q := n / d
  let r := n % d
  if 2 * r < d then q
  else if d < 2 * r then q + 1
  else q + q % 2

/-- `n / d` in units of `2 ^ e`, as a pair of numerator and denominator. -/
def inUnits (n d : Nat) (e : Int) : Nat × Nat :=
  (n * Nat.pow 2 (-e).toNat, d * Nat.pow 2 e.toNat)

/-- The exponent at which `n / d` has a 53-bit whole part. -/
def unitExponent (n d : Nat) : Int :=
  let guess : Int := (n.log2 : Int) - d.log2 - 52
  let (a, b) := inUnits n d guess
  if a / b < leastMantissa then guess - 1 else guess

/-- The number nearest to `n / d`; a tie goes to the even mantissa. -/
def ofRatio (n d : Nat) : Binary64 :=
  if n = 0 then zero
  else
    let e := unitExponent n d
    let (a, b) := inUnits n d e
    let m := roundQuotient a b
    if m = 2 * leastMantissa then ⟨leastMantissa, e + 1⟩ else ⟨m, e⟩

def ofNat (n : Nat) : Binary64 := ofRatio n 1

def add (x y : Binary64) : Binary64 :=
  ofRatio (x.num * y.den + y.num * x.den) (x.den * y.den)

def div (x y : Binary64) : Binary64 :=
  ofRatio (x.num * y.den) (x.den * y.num)

instance : Add Binary64 := ⟨add⟩
instance : Div Binary64 := ⟨div⟩

end Binary64

end ReadinessBench
