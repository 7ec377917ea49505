import FieldRules.Message
import FieldRules.Report
import FieldRules.Rule.Basic
import FieldRules.Text.Debug

namespace FieldRules

def unexpected : Json → String
  | .null => "null"
  | .bool b => "boolean `" ++ (if b then "true" else "false") ++ "`"
  | .num (.nat n) => "integer `" ++ Nat.repr n ++ "`"
  | .num (.neg n) => "integer `" ++ toString n ++ "`"
  | .num (.float x) => "floating point `" ++ Binary64.render .positional x ++ "`"
  | .str s => "string " ++ Text.debugQuote s
  | .arr _ => "sequence"
  | .obj _ => "map"

def invalidType (v : Json) (expected : String) : String :=
  "invalid type: " ++ unexpected v ++ ", expected " ++ expected

def decodeBool : Json → Except String Bool
  | .bool b => .ok b
  | v => .error (invalidType v "a boolean")

def decodeString : Json → Except String String
  | .str s => .ok s
  | v => .error (invalidType v "a string")

def decodeTextMap : Json → Except String (List (String × String))
  | .obj fs => fs.foldlM (fun acc (k, v) => (decodeString v).map (Assoc.insert acc k ·)) []
  | v => .error (invalidType v "a map")

def decodeNestedTextMap : Json → Except String (List (String × List (String × String)))
  | .obj fs => fs.foldlM (fun acc (k, v) => (decodeTextMap v).map (Assoc.insert acc k ·)) []
  | v => .error (invalidType v "a map")

def unknownVariant (name : String) (names : List String) : String :=
  "unknown variant `" ++ name ++ "`, expected one of " ++
    ", ".intercalate (names.map fun n => "`" ++ n ++ "`")

def decodeVariant {α : Type} (names : List (String × α)) : Json → Except String α
  | .str s =>
    match names.lookup s with
    | some a => .ok a
    | none => .error (unknownVariant s (names.map (·.1)))
  | .obj [(s, inner)] =>
    match names.lookup s with
    | some a => if inner.isNull then .ok a else .error (invalidType inner "unit")
    | none => .error (unknownVariant s (names.map (·.1)))
  | .obj _ => .error "invalid value: map, expected map with a single key"
  | v => .error (invalidType v "string or map")

namespace BaseType

def decode : Json → Except String BaseType := decodeVariant (all.map fun t => (t.name, t))

end BaseType

namespace ResponseType

def decode : Json → Except String ResponseType :=
  decodeVariant ([ResponseType.laravel, .flat, .grouped, .nested].map fun t => (t.name, t))

def parse (s : String) : Except String ResponseType :=
  match ofName? s with
  | some t => .ok t
  | none => .error ("unknown response type `" ++ s ++ "`")

end ResponseType

def tooLong (n : Nat) : String := "invalid length " ++ Nat.repr n ++ ", expected fewer elements in array"

namespace Catalog

def decodeMember (c : Catalog) : String × Json → Except String Catalog
  | ("rules", v) => (decodeTextMap v).map fun m => { c with rules := m }
  | ("fields", v) => (decodeNestedTextMap v).map fun m => { c with fields := m }
  | ("attributes", v) => (decodeTextMap v).map fun m => { c with attributes := m }
  | _ => .ok c

def decode : Json → Except String Catalog
  | .obj fs => fs.foldlM decodeMember Catalog.empty
  | .arr items =>
    if items.length > 3 then .error (tooLong items.length)
    else (List.zip ["rules", "fields", "attributes"] items).foldlM decodeMember Catalog.empty
  | v => .error (invalidType v "struct MessageCatalog")

def toJson (c : Catalog) : Json :=
  .obj [("rules", .obj (c.rules.map fun (k, v) => (k, .str v))),
    ("fields", .obj (c.fields.map fun (f, m) => (f, .obj (m.map fun (k, v) => (k, .str v))))),
    ("attributes", .obj (c.attributes.map fun (k, v) => (k, .str v)))]

end Catalog

/-- Options of a validation run. -/
structure Config where
  /-- Stop a field's chain at its first failure. -/
  bail : Bool
  /-- Trim blanks from string values before checking them. -/
  autoTrim : Bool
  /-- Treat a string that is empty after trimming as `null`. -/
  emptyToNull : Bool
  /-- Selects the locale catalog. -/
  locale : String
  /-- Templates and names that take precedence over the locale's. -/
  messages : Catalog
  /-- The report shape of a result. -/
  responseType : ResponseType
deriving BEq, Inhabited

namespace Config

def default : Config := ⟨false, true, false, "en", Catalog.empty, .laravel⟩

def decodeMember (c : Config) : String × Json → Except String Config
  | ("bail", v) => (decodeBool v).map fun b => { c with bail := b }
  | ("autoTrim", v) => (decodeBool v).map fun b => { c with autoTrim := b }
  | ("convertEmptyStringToNull", v) => (decodeBool v).map fun b => { c with emptyToNull := b }
  | ("locale", v) => (decodeString v).map fun s => { c with locale := s }
  | ("messages", v) => (Catalog.decode v).map fun m => { c with messages := m }
  | ("responseType", v) => (ResponseType.decode v).map fun t => { c with responseType := t }
  | _ => .ok c

def keys : List String :=
  ["bail", "autoTrim", "convertEmptyStringToNull", "locale", "messages", "responseType"]

def decode : Json → Except String Config
  | .obj fs => fs.foldlM decodeMember Config.default
  | .arr items =>
    if items.length > keys.length then .error (tooLong items.length)
    else (List.zip keys items).foldlM decodeMember Config.default
  | v => .error (invalidType v "struct ValidatorConfig")

def toJson (c : Config) : Json :=
  .obj [("bail", .bool c.bail), ("autoTrim", .bool c.autoTrim),
    ("convertEmptyStringToNull", .bool c.emptyToNull), ("locale", .str c.locale),
    ("messages", c.messages.toJson), ("responseType", .str c.responseType.name)]

end Config

end FieldRules
