import FieldRules.Binary64.Round
import FieldRules.Assoc

namespace FieldRules

/-- A JSON number: an integer below `2 ^ 64`, a negative integer not below `-2 ^ 63`, or a
double for every other number. -/
inductive Num where
  | nat (n : Nat)
  | neg (n : Int)
  | float (x : Float)
deriving Inhabited

/-- A JSON value. An object lists its members in insertion order, each key once. -/
inductive Json where
  | null
  | bool (b : Bool)
  | num (n : Num)
  | str (s : String)
  | arr (items : List Json)
  | obj (fields : List (String × Json))
deriving Inhabited

namespace Num

def same : Num → Num → Bool
  | nat a, nat b => a == b
  | neg a, neg b => a == b
  | float a, float b => a == b
  | _, _ => false

def toFloat : Num → Float
  | nat n => Binary64.ofNat n
  | neg n => Binary64.ofInt n
  | float x => x

def toInt? : Num → Option Int
  | nat n => if n < Nat.pow 2 63 then some n else none
  | neg n => some n
  | float _ => none

def toNat? : Num → Option Nat
  | nat n => some n
  | _ => none

end Num

namespace Json

mutual
def same : Json → Json → Bool
  | .null, .null => true
  | .bool a, .bool b => a == b
  | .num a, .num b => a.same b
  | .str a, .str b => a == b
  | .arr xs, .arr ys => sameItems xs ys
  | .obj fs, .obj gs => fs.length == gs.length && sameFields fs gs
  | _, _ => false

def sameItems : List Json → List Json → Bool
  | [], [] => true
  | x :: xs, y :: ys => same x y && sameItems xs ys
  | _, _ => false

def sameFields : List (String × Json) → List (String × Json) → Bool
  | [], _ => true
  | (k, v) :: rest, gs =>
    (match gs.lookup k with
     | some w => same v w
     | none => false) && sameFields rest gs
end

def get? (key : String) : Json → Option Json
  | .obj fs => fs.lookup key
  | _ => none

def isNull : Json → Bool
  | .null => true
  | _ => false

def isObject : Json → Bool
  | .obj _ => true
  | _ => false

def asString? : Json → Option String
  | .str s => some s
  | _ => none

def asObject? : Json → Option (List (String × Json))
  | .obj fs => some fs
  | _ => none

def asNum? : Json → Option Num
  | .num n => some n
  | _ => none

end Json

end FieldRules
