import FieldRules.Json.Write
import FieldRules.Assoc

namespace FieldRules

/-- Templates by rule key, templates by field and rule, and display names of fields. -/
structure Catalog where
  rules : List (String × String)
  fields : List (String × List (String × String))
  attributes : List (String × String)
deriving BEq, Inhabited

namespace Catalog

def empty : Catalog := ⟨[], [], []⟩

def withRule (c : Catalog) (key template : String) : Catalog :=
  { c with rules := Assoc.insert c.rules key template }

def withField (c : Catalog) (field rule template : String) : Catalog :=
  let inner := (c.fields.lookup field).getD []
  { c with fields := Assoc.insert c.fields field (Assoc.insert inner rule template) }

def withAttribute (c : Catalog) (field name : String) : Catalog :=
  { c with attributes := Assoc.insert c.attributes field name }

def isEmpty (c : Catalog) : Bool := c.rules.isEmpty && c.fields.isEmpty && c.attributes.isEmpty

end Catalog

/-- What a message is rendered for: the concrete field, its pattern, the rule's message key,
the scope of type-scoped templates, and the value (absent when there is none). -/
structure Request where
  field : String
  pattern : String
  rule : String
  scope : Option String
  value : Option Json

namespace Catalog

def fieldTemplate (c : Catalog) (r : Request) : Option String :=
  [r.field, r.pattern].findSome? fun f => (c.fields.lookup f).bind (·.lookup r.rule)

def ruleTemplate (c : Catalog) (r : Request) : Option String :=
  (r.scope.bind fun s => c.rules.lookup (r.rule ++ "." ++ s)).or (c.rules.lookup r.rule)

def displayName? (c : Catalog) (r : Request) : Option String :=
  [r.field, r.pattern].findSome? fun f => c.attributes.lookup f

end Catalog

def displayValue : Json → String
  | .str s => s
  | v => v.render

def isNameChar (c : Char) : Bool := ('a' ≤ c && c ≤ 'z') || c == '_'

/-- Where the placeholder scanner stands: in plain text, just after a colon, or inside a name
(kept reversed). -/
inductive ScanState where
  | text
  | colon
  | name (rev : List Char)

/-- Replaces every `:name` (a lowercase letter, then lowercase letters and underscores, as
long as possible) by its value; a name without a value stays as written. Inserted text is not
scanned again. -/
def substitute (lookup : String → Option String) (template : String) : String :=
  String.ofList (go .text template.toList)
where
  /-- The text of a finished name. -/
  emit (rev : List Char) : List Char :=
    match lookup (String.ofList rev.reverse) with
    | some v => v.toList
    | none => ':' :: rev.reverse
  /-- Substitution over the characters of a template. -/
  go : ScanState → List Char → List Char
    | .text, [] => []
    | .colon, [] => [':']
    | .name rev, [] => emit rev
    | .text, c :: rest => if c == ':' then go .colon rest else c :: go .text rest
    | .colon, c :: rest =>
      if 'a' ≤ c && c ≤ 'z' then go (.name [c]) rest
      else if c == ':' then ':' :: go .colon rest
      else ':' :: c :: go .text rest
    | .name rev, c :: rest =>
      if isNameChar c then go (.name (c :: rev)) rest
      else if c == ':' then emit rev ++ go .colon rest
      else emit rev ++ c :: go .text rest

/-- Renders messages from an override catalog and the catalog of the active locale. -/
structure Formatter where
  overrides : Catalog
  locale : Option Catalog

namespace Formatter

def template (f : Formatter) (r : Request) (fallback : String) : String :=
  ((((f.overrides.fieldTemplate r).or (f.locale.bind (·.fieldTemplate r))).or
    (f.overrides.ruleTemplate r)).or (f.locale.bind (·.ruleTemplate r))).getD fallback

def displayName (f : Formatter) (r : Request) : String :=
  match (f.overrides.displayName? r).or (f.locale.bind (·.displayName? r)) with
  | some a => a
  | none => String.ofList (r.field.toList.map fun c => if c == '_' then ' ' else c)

def renderCustom (f : Formatter) (r : Request) (template : String)
    (placeholders : List (String × String)) : String :=
  substitute (fun name =>
    if name == "attribute" then some (f.displayName r)
    else if name == "value" then some ((r.value.map displayValue).getD "")
    else placeholders.lookup name) template

def render (f : Formatter) (r : Request) (fallback : String)
    (placeholders : List (String × String)) : String :=
  f.renderCustom r (f.template r fallback) placeholders

end Formatter

end FieldRules
