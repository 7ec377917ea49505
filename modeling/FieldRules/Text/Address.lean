
namespace FieldRules.Text

/-- An internet address. -/
inductive Address where
  | v4 (octets : List Nat)
  | v6 (groups : List Nat)
deriving BEq, Repr

def digitValue (radix : Nat) (c : Char) : Option Nat :=
  let d := if c.isDigit then some (c.toNat - 48)
    else if 'a' ≤ c && c ≤ 'z' then some (c.toNat - 87)
    else if 'A' ≤ c && c ≤ 'Z' then some (c.toNat - 55)
    else none
  d.bind fun v => if v < radix then some v else none

/-- Reads a number: all the digits that follow, at most `maxDigits` of them, a value at most
`limit`, and a leading zero only when allowed or when the number is `0`. -/
def readNumber (radix maxDigits limit : Nat) (zeroPrefix : Bool) (cs : List Char) :
    Option (Nat × List Char) :=
  let ds := cs.takeWhile fun c => (digitValue radix c).isSome
  let rest := cs.drop ds.length
  let n := ds.foldl (fun n c => n * radix + (digitValue radix c).getD 0) 0
  if ds.isEmpty || ds.length > maxDigits || n > limit then none
  else if !zeroPrefix && ds.head? == some '0' && ds.length > 1 then none
  else some (n, rest)

def readV4 (cs : List Char) : Option (List Nat × List Char) := do
  let (a, cs) ← readNumber 10 3 255 false cs
  let cs ← match cs with | '.' :: r => some r | _ => none
  let (b, cs) ← readNumber 10 3 255 false cs
  let cs ← match cs with | '.' :: r => some r | _ => none
  let (c, cs) ← readNumber 10 3 255 false cs
  let cs ← match cs with | '.' :: r => some r | _ => none
  let (d, cs) ← readNumber 10 3 255 false cs
  some ([a, b, c, d], cs)

/-- Reads up to `limit` colon-separated IPv6 groups; an IPv4 address may stand for the last two
groups when at least two remain. Gives the groups, whether an IPv4 address ended them, and the
rest of the text. -/
def readGroups (limit : Nat) : Nat → List Char → List Nat × Bool × List Char
  | 0, cs => ([], false, cs)
  | n + 1, cs =>
    let i := limit - (n + 1)
    let sep : Option (List Char) := if i == 0 then some cs else
      match cs with
      | ':' :: r => some r
      | _ => none
    let asV4 := if i + 1 < limit then sep.bind readV4 else none
    match asV4 with
    | some ([a, b, c, d], rest) => ([a * 256 + b, c * 256 + d], true, rest)
    | _ =>
      match sep.bind (readNumber 16 4 0xFFFF true) with
      | some (g, rest) =>
        let (gs, v4, rest) := readGroups limit n rest
        (g :: gs, v4, rest)
      | none => ([], false, cs)

def readV6 (cs : List Char) : Option (List Nat × List Char) :=
  let (head, headV4, cs) := readGroups 8 8 cs
  if head.length == 8 then some (head, cs)
  else if headV4 then none
  else
    match cs with
    | ':' :: ':' :: rest =>
      let limit := 8 - (head.length + 1)
      let (tail, _, rest) := readGroups limit limit rest
      some (head ++ List.replicate (8 - head.length - tail.length) 0 ++ tail, rest)
    | _ => none

def Address.parse? (s : String) : Option Address :=
  let cs := s.toList
  match readV4 cs with
  | some (octets, []) => some (.v4 octets)
  | some _ => none
  | none =>
    match readV6 cs with
    | some (groups, []) => some (.v6 groups)
    | _ => none

end FieldRules.Text
