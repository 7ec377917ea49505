import FieldRules.Binary64.Shortest

namespace FieldRules.Binary64

/-- How a finite double is laid out once its shortest digits are known. With `d₁…dₙ` the
digits and `m` the position of the decimal point after `d₁` (so the value is
`0.d₁…dₙ × 10 ^ m`), positional notation is used for `fractionAbove < m ≤ integerUpTo`. -/
structure Layout where
  /-- Largest `m` written positionally. -/
  integerUpTo : Int
  /-- Largest `m` below the positional range. -/
  fractionAbove : Int
  /-- An integral value keeps a trailing `.0`. -/
  pointZero : Bool
  /-- A non-negative exponent is written with `+`. -/
  plusExponent : Bool

def Layout.data : Layout := ⟨16, -5, true, true⟩

/-- Numbers in messages: always positional, `.0` kept. Every finite double has its decimal point
within 400 places of its first digit, so no exponent is ever written. -/
def Layout.positional : Layout := ⟨400, -400, true, false⟩

def zeros (n : Nat) : String := String.ofList (List.replicate n '0')

def render (layout : Layout) (x : Float) : String :=
  let p := decode x
  let sign := if p.neg then "-" else ""
  if p.mant == 0 then sign ++ (if layout.pointZero then "0.0" else "0")
  else
    let d := shortest p.mant p.exp
    let s := (Nat.repr d.digits).toList
    let len : Int := s.length
    let m := len + d.exp
    let body :=
      if 0 ≤ d.exp && m ≤ layout.integerUpTo then
        String.ofList s ++ zeros d.exp.toNat ++ (if layout.pointZero then ".0" else "")
      else if 0 < m && m ≤ layout.integerUpTo then
        String.ofList (s.take m.toNat) ++ "." ++ String.ofList (s.drop m.toNat)
      else if layout.fractionAbove < m && m ≤ 0 then
        "0." ++ zeros (-m).toNat ++ String.ofList s
      else
        let e := m - 1
        let mark := if e < 0 then "-" else if layout.plusExponent then "+" else ""
        let rest := s.drop 1
        String.ofList (s.take 1) ++ (if rest.isEmpty then "" else "." ++ String.ofList rest) ++
          "e" ++ mark ++ Nat.repr e.natAbs
    sign ++ body

def digitsValue (ds : List Char) : Nat :=
  ds.foldl (fun acc c => acc * 10 + (c.toNat - '0'.toNat)) 0

def spanDigits (cs : List Char) : List Char × List Char :=
  (cs.takeWhile Char.isDigit, cs.dropWhile Char.isDigit)

def readExponent (cs : List Char) : Option Int :=
  let (neg, rest) := match cs with
    | '-' :: r => (true, r)
    | '+' :: r => (false, r)
    | r => (false, r)
  let (ds, tail) := spanDigits rest
  if ds.isEmpty || !tail.isEmpty then none
  else
    let v : Int := digitsValue ds
    some (if neg then -v else v)

/-- Reads a whole text as a double: an optional sign, then `inf`, `infinity` or `nan` in any
case, or digits with an optional point (at least one digit in all) and an optional exponent.
Anything else, the empty text included, is refused. -/
def read? (text : String) : Option Float :=
  let (neg, rest) := match text.toList with
    | '-' :: r => (true, r)
    | '+' :: r => (false, r)
    | r => (false, r)
  let word := String.ofList (rest.map Char.toLower)
  if word == "inf" || word == "infinity" then some (infinity neg)
  else if word == "nan" then some (0.0 / 0.0)
  else
    let (whole, afterWhole) := spanDigits rest
    let (frac, afterFrac) := match afterWhole with
      | '.' :: r => spanDigits r
      | r => ([], r)
    if whole.isEmpty && frac.isEmpty then none
    else
      let expo : Option Int := match afterFrac with
        | [] => some 0
        | c :: r => if c == 'e' || c == 'E' then readExponent r else none
      expo.map fun e => ofDecimal neg (digitsValue (whole ++ frac)) (e - frac.length)

end FieldRules.Binary64
