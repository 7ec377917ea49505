import FieldRules.Check.Param
import FieldRules.Json.Scalar
import FieldRules.Rule.Parse

namespace FieldRules.Check

def truncate (x : Float) : Float := if x < 0 then x.ceil else x.floor

def decimalPlaces? (v : Json) : Option Nat :=
  let text : Option String := match v with
    | .num n => some n.render
    | .str s => if (Json.asNumber? v).isSome then some (Text.trim s) else none
    | _ => none
  text.map fun t => match splitOnce t '.' with
    | some (_, fraction) => fraction.utf8ByteSize
    | none => 0

def number (r : NumberRule) (v : Json) (params : List String) : Except String Verdict := do
  let n := Json.asNumber? v
  let test (p : Float → Bool) : Verdict := .ofBool ((n.map p).getD false)
  match r with
  | .min => let m ← numberParam params 0; .ok (test (· ≥ m))
  | .max => let m ← numberParam params 0; .ok (test (· ≤ m))
  | .between =>
    let lo ← numberParam params 0
    let hi ← numberParam params 1
    .ok (test fun x => lo ≤ x && x ≤ hi)
  | .integer => .ok (test fun x => (x - truncate x).abs < epsilon)
  | .positive => .ok (test (· > 0))
  | .negative => .ok (test (· < 0))
  | .multipleOf =>
    let step ← numberParam params 0
    .ok (test fun x =>
      let ratio := x / step
      step.abs > epsilon && (ratio - ratio.round).abs < 1.0e-9)
  | .decimal =>
    let lo ← numberParam params 0
    let hi ← if params.length > 1 then numberParam params 1 else .ok lo
    .ok (.ofBool (((decimalPlaces? v).map fun k =>
      let places := Binary64.ofNat k
      places ≥ lo && places ≤ hi).getD false))

def numberPlaceholders (r : NumberRule) (params : List String) : List (String × String) :=
  let p (i : Nat) := (params[i]?).getD ""
  match r with
  | .min => [("min", p 0)]
  | .max => [("max", p 0)]
  | .between => [("min", p 0), ("max", p 1)]
  | .multipleOf => [("multiple", p 0)]
  | .decimal => [("decimal", "-".intercalate params)]
  | _ => []

end FieldRules.Check
