import FieldRules.Handler

namespace FieldRules.Check

def listed (params : List String) (item : Json) : Bool :=
  match item.scalarText? with
  | some t => params.contains t
  | none => false

def unlisted (params : List String) (item : Json) : Bool :=
  match item.scalarText? with
  | some t => !params.contains t
  | none => true

def comparison (r : Comparison) (ctx : Context) (v : Json) (params : List String) : Verdict :=
  let first := (params.head?).getD ""
  let equalTo (path : String) : Bool :=
    match ctx.lookupCoerced path with
    | some w => w.same v
    | none => false
  match r with
  | .inList => .ofBool (match v with
    | .arr items => items.all (listed params)
    | other => listed params other)
  | .notInList => .ofBool (match v with
    | .arr items => items.all (unlisted params)
    | other => unlisted params other)
  | .same => .ofBool (equalTo first)
  | .different => .ofBool (!equalTo first)
  | .confirmed => .ofBool (equalTo (ctx.field ++ "_confirmation"))
  | .accepted => .ofBool (listed ["yes", "on", "1", "true"] v)
  | .declined => .ofBool (listed ["no", "off", "0", "false"] v)

def comparisonPlaceholders (r : Comparison) (ctx : Context) (params : List String) :
    List (String × String) :=
  match r with
  | .inList | .notInList => [("values", ", ".intercalate params)]
  | .same | .different => [("other", ctx.displayNameOf ((params.head?).getD ""))]
  | _ => []

end FieldRules.Check
