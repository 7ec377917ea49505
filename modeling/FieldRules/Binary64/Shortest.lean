import FieldRules.Binary64.Round

namespace FieldRules.Binary64

/-- A positive decimal `digits * 10 ^ exp` whose digits have no trailing zero. -/
structure Decimal where
  digits : Nat
  exp : Int
deriving Repr, BEq

/-- A non-negative rational kept as numerator and denominator. -/
structure Ratio where
  num : Nat
  den : Nat

def Ratio.ofBinary (n : Nat) (e : Int) : Ratio :=
  if 0 ≤ e then ⟨n * Nat.pow 2 e.toNat, 1⟩ else ⟨n, Nat.pow 2 (-e).toNat⟩

def Ratio.ofDecimal (n : Nat) (e : Int) : Ratio :=
  if 0 ≤ e then ⟨n * Nat.pow 10 e.toNat, 1⟩ else ⟨n, Nat.pow 10 (-e).toNat⟩

def Ratio.cmp (a b : Ratio) : Ordering := compare (a.num * b.den) (b.num * a.den)

def Ratio.sub (a b : Ratio) : Ratio := ⟨a.num * b.den - b.num * a.den, a.den * b.den⟩

def Decimal.normalize (digits : Nat) (exp : Int) (fuel : Nat := 24) : Decimal :=
  match fuel with
  | 0 => ⟨digits, exp⟩
  | fuel + 1 =>
    if digits != 0 && digits % 10 == 0 then Decimal.normalize (digits / 10) (exp + 1) fuel
    else ⟨digits, exp⟩

/-- The exponent `k` with `10 ^ k ≤ v < 10 ^ (k + 1)`, for a positive ratio `v`, found from an
estimate through the binary logarithm and corrected by exact comparisons. -/
def decimalExponent (v : Ratio) : Int :=
  let est : Int := ((Nat.log2 v.num : Int) - Nat.log2 v.den) * 30103 / 100000
  let below (k : Int) : Bool := (Ratio.ofDecimal 1 k).cmp v != .gt
  let rec down (k : Int) : Nat → Int
    | 0 => k
    | fuel + 1 => if below k then k else down (k - 1) fuel
  let rec up (k : Int) : Nat → Int
    | 0 => k
    | fuel + 1 => if below (k + 1) then up (k + 1) fuel else k
  up (down (est + 2) 8) 8

def Ratio.within (x lo hi : Ratio) (closed : Bool) : Bool :=
  let a := lo.cmp x
  let b := x.cmp hi
  if closed then a != .gt && b != .gt else a == .lt && b == .lt

def shortest (mant : Nat) (exp : Int) : Decimal :=
  let v := Ratio.ofBinary mant exp
  -- the neighbouring midpoints; the gap below halves at the bottom of a binade
  let lower := if mant == Nat.pow 2 52 && exp > -1074 then Ratio.ofBinary (4 * mant - 1) (exp - 2)
    else Ratio.ofBinary (2 * mant - 1) (exp - 1)
  let upper := Ratio.ofBinary (2 * mant + 1) (exp - 1)
  let closed := mant % 2 == 0
  let k := decimalExponent v
  let rec search : Nat → Nat → Decimal
    | 0, _ => Decimal.normalize mant 0
    | fuel + 1, n =>
      let p : Int := k + 1 - n
      let grid := Ratio.ofDecimal 1 p
      let t := v.num * grid.den / (v.den * grid.num)
      let lo := Ratio.ofDecimal t p
      let hi := Ratio.ofDecimal (t + 1) p
      let loIn := lo.within lower upper closed
      let hiIn := hi.within lower upper closed
      if loIn && hiIn then
        match (v.sub lo).cmp (hi.sub v) with
        | .lt => Decimal.normalize t p
        | .gt => Decimal.normalize (t + 1) p
        | .eq => if t % 2 == 0 then Decimal.normalize t p else Decimal.normalize (t + 1) p
      else if loIn then Decimal.normalize t p
      else if hiIn then Decimal.normalize (t + 1) p
      else search fuel (n + 1)
  search 17 1

end FieldRules.Binary64
