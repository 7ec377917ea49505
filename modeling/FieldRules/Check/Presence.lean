import FieldRules.Handler

namespace FieldRules.Check

def isAbsent : Option Json → Bool
  | none | some .null => true
  | _ => false

def conditional (required : Bool) (v : Option Json) : Verdict :=
  if required then .ofBool (!Json.isBlank v) else if isAbsent v then .halt else .pass

def otherMatches (ctx : Context) (params : List String) : Bool :=
  match params with
  | [] => false
  | other :: values =>
    match (ctx.lookup other).bind Json.scalarText? with
    | some t => values.contains t
    | none => false

def presence (r : Presence) (ctx : Context) (v : Option Json) (params : List String) : Verdict :=
  match r with
  | .required => .ofBool (!Json.isBlank v)
  | .requiredIf => conditional (otherMatches ctx params) v
  | .requiredUnless => conditional (!otherMatches ctx params) v
  | .requiredWith => conditional (params.any fun p => !Json.isBlank (ctx.lookup p)) v
  | .requiredWithout => conditional (params.any fun p => Json.isBlank (ctx.lookup p)) v
  | .nullable => if isAbsent v then .halt else .pass

def presencePlaceholders (r : Presence) (ctx : Context) (params : List String) :
    List (String × String) :=
  match r with
  | .requiredIf | .requiredUnless =>
    let (other, values) := match params with
      | [] => ("", [])
      | o :: vs => (o, vs)
    [("other", ctx.displayNameOf other), ("values", ", ".intercalate values)]
  | .requiredWith | .requiredWithout =>
    [("values", " / ".intercalate (params.map ctx.displayNameOf))]
  | _ => []

end FieldRules.Check
