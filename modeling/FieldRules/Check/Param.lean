import FieldRules.Handler

namespace FieldRules.Check

def numberParam (params : List String) (idx : Nat) : Except String Float :=
  match params[idx]? with
  | none => .error ("missing parameter " ++ Nat.repr idx)
  | some p =>
    match Binary64.read? p with
    | some x => .ok x
    | none => .error ("parameter `" ++ p ++ "` is not a number")

def epsilon : Float := 1.0 / 4503599627370496.0

end FieldRules.Check
