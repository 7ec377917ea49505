import FieldRules.Check.Param
import FieldRules.Json.Scalar
import FieldRules.Schema

namespace FieldRules.Check

def list (r : ListRule) (v : Json) (params : List String) : Except String Verdict := do
  let len : Option Float := match v with
    | .arr items => some (Binary64.ofNat items.length)
    | _ => none
  let test (p : Float → Bool) : Verdict := .ofBool ((len.map p).getD false)
  match r with
  | .min => let m ← numberParam params 0; .ok (test (· ≥ m))
  | .max => let m ← numberParam params 0; .ok (test (· ≤ m))
  | .length => let m ← numberParam params 0; .ok (test fun x => (x - m).abs < epsilon)
  | .distinct =>
    .ok (.ofBool (match v with
      | .arr items =>
        let rec fresh : List Json → List Json → Bool
          | _, [] => true
          | seen, x :: xs => !seen.any (·.same x) && fresh (seen ++ [x]) xs
        fresh [] items
      | _ => false))
  | .includes =>
    .ok (.ofBool (match v with
      | .arr items =>
        let texts := items.filterMap Json.scalarText?
        params.all texts.contains
      | _ => false))

def listPlaceholders (r : ListRule) (params : List String) : List (String × String) :=
  let p (i : Nat) := (params[i]?).getD ""
  match r with
  | .min => [("min", p 0)]
  | .max => [("max", p 0)]
  | .length => [("length", p 0)]
  | .includes => [("values", ", ".intercalate params)]
  | .distinct => []

def hasKeys (v : Json) (params : List String) : Bool :=
  match v with
  | .obj fs => params.all fun k => (fs.lookup k).isSome
  | _ => false

def unexpectedKeys (fs : List (String × Json)) (allowed : List String) : List String :=
  (fs.map (·.1)).filter fun k => !allowed.contains k

def descriptor? : Json → Option (List (String × Json))
  | .obj fs => match fs.lookup "name" with
    | some (.str _) => some fs
    | _ => none
  | _ => none

def sizeKb? (v : Json) : Option Float :=
  match (descriptor? v).bind (·.lookup "size") with
  | some (.num (.nat n)) => some (Binary64.ofNat n / 1024.0)
  | _ => none

def asciiLower (s : String) : String := String.ofList (s.toList.map Char.toLower)

def extension? (v : Json) : Option String :=
  match (descriptor? v).bind (·.lookup "name") with
  | some (.str name) =>
    let cs := name.toList
    match cs.reverse.idxOf? '.' with
    | some k =>
      if k < cs.length then
        let stem := cs.take (cs.length - k - 1)
        let ext := cs.drop (cs.length - k)
        if stem.isEmpty || ext.isEmpty then none else some (asciiLower (String.ofList ext))
      else none
    | none => none
  | _ => none

def mediaType? (v : Json) : Option String :=
  (descriptor? v).bind fun fs =>
    match (fs.lookup "type").or (fs.lookup "mime") with
    | some (.str t) => some (asciiLower t)
    | _ => none

def typeFits (mime pattern : String) : Bool :=
  let pattern := asciiLower pattern
  if pattern.endsWith "/*" then
    match splitOnce mime '/' with
    | some (major, _) => major == String.ofList (pattern.toList.dropLast.dropLast)
    | none => false
  else pattern == mime

def file (r : FileRule) (v : Json) (params : List String) : Except String Verdict := do
  match r with
  | .min => let m ← numberParam params 0; .ok (.ofBool (((sizeKb? v).map fun k => decide (k ≥ m)).getD false))
  | .max => let m ← numberParam params 0; .ok (.ofBool (((sizeKb? v).map fun k => decide (k ≤ m)).getD false))
  | .mimes =>
    .ok (.ofBool (((extension? v).map fun ext => params.any (asciiLower · == ext)).getD false))
  | .types => .ok (.ofBool (((mediaType? v).map fun m => params.any (typeFits m)).getD false))

def filePlaceholders (r : FileRule) (params : List String) : List (String × String) :=
  let p (i : Nat) := (params[i]?).getD ""
  match r with
  | .min => [("min", p 0)]
  | .max => [("max", p 0)]
  | .mimes | .types => [("values", ", ".intercalate params)]

def isFile (v : Json) : Bool :=
  match descriptor? v with
  | some fs => match fs.lookup "size" with
    | none | some (.num (.nat _)) => true
    | _ => false
  | none => false

end FieldRules.Check
