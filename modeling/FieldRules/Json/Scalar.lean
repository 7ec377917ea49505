import FieldRules.Json.Write
import FieldRules.Binary64.Text
import FieldRules.Text.Blank

namespace FieldRules.Json

def scalarText? : Json → Option String
  | .str s => some s
  | .arr _ | .obj _ => none
  | v => some v.render

def isBlank : Option Json → Bool
  | none | some .null => true
  | some (.str s) => Text.isBlankText s
  | some (.arr items) => items.isEmpty
  | some (.obj fs) => fs.isEmpty
  | some _ => false

def asNumber? : Json → Option Float
  | .num n => some n.toFloat
  | .str s =>
    match Binary64.read? (Text.trim s) with
    | some x => if x.isFinite then some x else none
    | none => none
  | _ => none

def asBool? : Json → Option Bool
  | .bool b => some b
  | .num (.nat 0) => some false
  | .num (.nat 1) => some true
  | .str "0" | .str "false" => some false
  | .str "1" | .str "true" => some true
  | _ => none

end FieldRules.Json
