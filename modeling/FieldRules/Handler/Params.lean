import FieldRules.Handler
import FieldRules.Rule.Union
import FieldRules.Regex.Match

namespace FieldRules

namespace Builtin

def validateParams (b : Builtin) (params : List String) : Except String Unit :=
  match b with
  | type _ | presence .required | presence .nullable => .ok ()
  | presence .requiredIf | presence .requiredUnless => requireParams params 2
  | presence .requiredWith | presence .requiredWithout => requireParams params 1
  | comparison .inList | comparison .notInList | comparison .same | comparison .different =>
    requireParams params 1
  | comparison _ => .ok ()
  | union => do
    requireParams params 1
    let _ ← unionSets ((params.head?).getD "")
    let _ ← unionStops params
    .ok ()
  | text .min | text .max | text .length => requireNumbers params 1
  | text .between => requireNumbers params 2
  | text .startsWith | text .endsWith | text .includes => requireParams params 1
  | text .address =>
    match params.head? with
    | none | some "v4" | some "v6" => .ok ()
    | some other => .error ("unknown address family `" ++ other ++ "`")
  | text .pattern => do
    requireParams params 1
    let _ ← Regex.compile ((params.head?).getD "")
    .ok ()
  | text _ => .ok ()
  | number .min | number .max | number .multipleOf => requireNumbers params 1
  | number .between => requireNumbers params 2
  | number .decimal => requireNumbers params (min (max params.length 1) 2)
  | number _ => .ok ()
  | strictBoolean => .ok ()
  | list .min | list .max | list .length => requireNumbers params 1
  | list .includes => requireParams params 1
  | list .distinct => .ok ()
  | date .between => requireParams params 2
  | date _ => requireParams params 1
  | object .shape => do
    requireParams params 1
    let _ ← Schema.ofText ((params.head?).getD "")
    .ok ()
  | object .keys => requireParams params 1
  | object .strict => .ok ()
  | file .min | file .max => requireNumbers params 1
  | file .mimes | file .types => requireParams params 1

end Builtin

def Handler.validateParams : Handler → List String → Except String Unit
  | .builtin b => b.validateParams
  | .extension e => e.validateParams

end FieldRules
