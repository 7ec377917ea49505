
namespace FieldRules.Binary64

/-- A finite double taken apart: its magnitude is `mant * 2 ^ exp`. -/
structure Parts where
  neg : Bool
  mant : Nat
  exp : Int
deriving Repr

def decode (x : Float) : Parts :=
  let bits : Nat := x.toBits.toNat
  let neg : Bool := bits / Nat.pow 2 63 % 2 == 1
  let biased : Nat := bits / Nat.pow 2 52 % 2048
  let frac : Nat := bits % Nat.pow 2 52
  if biased == 0 then ⟨neg, frac, -1074⟩
  else ⟨neg, frac + Nat.pow 2 52, Int.ofNat biased - 1075⟩

def ofMagnitudeBits (neg : Bool) (mag : Nat) : Float :=
  Float.ofBits (UInt64.ofNat (if neg then mag + Nat.pow 2 63 else mag))

def infinity (neg : Bool) : Float := ofMagnitudeBits neg (2047 * Nat.pow 2 52)

def zero (neg : Bool) : Float := ofMagnitudeBits neg 0

def shiftFraction (num den : Nat) (e : Int) : Nat × Nat :=
  if 0 ≤ e then (num, den * Nat.pow 2 e.toNat) else (num * Nat.pow 2 (-e).toNat, den)

def roundedQuotient (num den : Nat) (e : Int) : Nat :=
  let (n, d) := shiftFraction num den e
  let q := n / d
  let r := n % d
  if 2 * r > d || (2 * r == d && q % 2 == 1) then q + 1 else q

/-- The double nearest to `num / den`, with the given sign. A tie goes to the even significand;
a magnitude past the largest double becomes infinity and one below half the least subnormal
becomes zero. -/
def nearest (neg : Bool) (num den : Nat) : Float :=
  if num == 0 || den == 0 then zero neg
  else
    -- first exponent guess puts the quotient in [2^52, 2^54)
    let e₁ : Int := (Nat.log2 num : Int) - Nat.log2 den - 53
    let (n₁, d₁) := shiftFraction num den e₁
    let e := max (if n₁ / d₁ ≥ Nat.pow 2 53 then e₁ + 1 else e₁) (-1074)
    let q := roundedQuotient num den e
    -- rounding up may carry into a new binade
    let (q, e) := if q == Nat.pow 2 53 then (Nat.pow 2 52, e + 1) else (q, e)
    if e > 971 then infinity neg
    else if q ≥ Nat.pow 2 52 then
      ofMagnitudeBits neg ((e + 1075).toNat * Nat.pow 2 52 + (q - Nat.pow 2 52))
    else ofMagnitudeBits neg q

def ofDecimal (neg : Bool) (digits : Nat) (exp10 : Int) : Float :=
  let width : Int := (Nat.repr digits).length
  if digits == 0 then zero neg
  else if exp10 + width > 310 then infinity neg
  else if exp10 + width < -330 then zero neg
  else if 0 ≤ exp10 then nearest neg (digits * Nat.pow 10 exp10.toNat) 1
  else nearest neg digits (Nat.pow 10 (-exp10).toNat)

def ofNat (n : Nat) : Float := nearest false n 1

def ofInt (n : Int) : Float := nearest (n < 0) n.natAbs 1

end FieldRules.Binary64
