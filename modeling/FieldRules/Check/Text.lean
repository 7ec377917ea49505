import FieldRules.Check.Param
import FieldRules.Regex.Match
import FieldRules.Text.Address
import FieldRules.Json.Read

namespace FieldRules.Check

/-- Email addresses: a local part of letters, digits and the allowed symbols, `@`, then dotted
labels of letters, digits and inner hyphens, at least two labels. -/
def emailPattern : Regex.Matcher :=
  match Regex.compile ("^[a-zA-Z0-9.!#$%&\x27*+/=?^_`\x7b|\x7d~-]+@[a-zA-Z0-9]" ++
      "(?:[a-zA-Z0-9-]\x7b0,61\x7d[a-zA-Z0-9])?" ++
      "(?:\\.[a-zA-Z0-9](?:[a-zA-Z0-9-]\x7b0,61\x7d[a-zA-Z0-9])?)+$") with
  | .ok re => re
  | .error _ => default

/-- URLs: `http://` or `https://`, a first character that is not a blank, `/`, `$`, `.`, `?` or
`#`, then at least one character and no blank. -/
def urlPattern : Regex.Matcher :=
  match Regex.compile "^https?://[^\\s/$.?#].[^\\s]*$" with
  | .ok re => re
  | .error _ => default

def uuidPattern : Regex.Matcher :=
  match Regex.compile ("^[0-9a-fA-F]\x7b8\x7d-[0-9a-fA-F]\x7b4\x7d-[0-9a-fA-F]\x7b4\x7d-" ++
      "[0-9a-fA-F]\x7b4\x7d-[0-9a-fA-F]\x7b12\x7d$") with
  | .ok re => re
  | .error _ => default

def charCount (s : String) : Float := Binary64.ofNat s.length

def containsText (s p : String) : Bool :=
  let pc := p.toList
  let rec go : List Char → Bool
    | [] => pc.isEmpty
    | c :: cs => pc.isPrefixOf (c :: cs) || go cs
  go s.toList

def isAlphaNum (c : Char) : Bool := Unicode.isAlphabetic c || Unicode.isNumeric c

def text (r : TextRule) (v : Json) (params : List String) : Except String Verdict := do
  match v with
  | .str s =>
    match r with
    | .min => let m ← numberParam params 0; .ok (.ofBool (charCount s ≥ m))
    | .max => let m ← numberParam params 0; .ok (.ofBool (charCount s ≤ m))
    | .length => let m ← numberParam params 0; .ok (.ofBool ((charCount s - m).abs < epsilon))
    | .between =>
      let lo ← numberParam params 0
      let hi ← numberParam params 1
      .ok (.ofBool (lo ≤ charCount s && charCount s ≤ hi))
    | .email => .ok (.ofBool (emailPattern.isMatch s))
    | .url => .ok (.ofBool (urlPattern.isMatch s))
    | .uuid => .ok (.ofBool (uuidPattern.isMatch s))
    | .alpha => .ok (.ofBool (!s.isEmpty && s.toList.all Unicode.isAlphabetic))
    | .alphaNum => .ok (.ofBool (!s.isEmpty && s.toList.all isAlphaNum))
    | .alphaDash =>
      .ok (.ofBool (!s.isEmpty && s.toList.all fun c => isAlphaNum c || c == '-' || c == '_'))
    | .pattern =>
      let re ← Regex.compile ((params.head?).getD "")
      .ok (.ofBool (re.isMatch s))
    | .startsWith => .ok (.ofBool (params.any fun p => p.toList.isPrefixOf s.toList))
    | .endsWith => .ok (.ofBool (params.any fun p => p.toList.reverse.isPrefixOf s.toList.reverse))
    | .includes => .ok (.ofBool (params.all (containsText s)))
    | .lowercase => .ok (.ofBool (Unicode.isLowercaseText s))
    | .uppercase => .ok (.ofBool (Unicode.isUppercaseText s))
    | .address =>
      .ok (.ofBool (match Text.Address.parse? s, params.head? with
        | some (.v4 _), none | some (.v4 _), some "v4" => true
        | some (.v6 _), none | some (.v6 _), some "v6" => true
        | _, _ => false))
    | .json => .ok (.ofBool (Json.read s).toBool)
  | _ =>
    match r with
    | .min | .max | .length => let _ ← numberParam params 0; .ok .fail
    | .between => let _ ← numberParam params 0; let _ ← numberParam params 1; .ok .fail
    | .pattern => let _ ← Regex.compile ((params.head?).getD ""); .ok .fail
    | _ => .ok .fail

def textPlaceholders (r : TextRule) (params : List String) : List (String × String) :=
  let p (i : Nat) := (params[i]?).getD ""
  match r with
  | .min => [("min", p 0)]
  | .max => [("max", p 0)]
  | .length => [("length", p 0)]
  | .between => [("min", p 0), ("max", p 1)]
  | .startsWith | .endsWith | .includes => [("values", ", ".intercalate params)]
  | _ => []

end FieldRules.Check
