import FieldRules.Schema
import FieldRules.Config
import FieldRules.Json.Scalar

namespace FieldRules

/-- How a rule name was found: in the table of untyped rules, in the table of a base type
(under a name within that table), or among the custom rules. -/
inductive RuleKind where
  | base
  | additional (parent : BaseType) (name : String)
  | custom (name : String)
deriving BEq, DecidableEq, Repr, Inhabited

namespace RuleKind

/-- The key a rule bound this way reports failures and looks up messages under: the rule's own
name for untyped rules, else the name within its table. -/
def messageKey (k : RuleKind) (r : Rule) : String :=
  match k with
  | base => r.name
  | additional _ n => n
  | custom n => n

def boundParams (k : RuleKind) (r : Rule) : List String :=
  match k with
  | custom _ => r.params.drop 1
  | _ => r.params

end RuleKind

/-- The circumstances of one rule check. -/
structure Context where
  /-- The whole data being validated. -/
  data : Json
  /-- The schema being validated. -/
  schema : Schema
  /-- The schema key the field was found by. -/
  pattern : String
  /-- The concrete path of the field. -/
  field : String
  /-- The coerced value, absent when the path reaches nothing. -/
  value : Option Json
  /-- The options of the run. -/
  config : Config
  /-- The message sources of the run. -/
  formatter : Formatter
  /-- The base type of the running chain. -/
  baseType : Option BaseType
  /-- The rules of the running chain, in execution order. -/
  chain : List Rule
  /-- The rule being checked. -/
  rule : Rule
  /-- How its name was resolved. -/
  kind : RuleKind
  /-- The names of the registered custom rules. -/
  customNames : List String

namespace Context

def ruleName (c : Context) : String := c.kind.messageKey c.rule

def lookup (c : Context) (path : String) : Option Json :=
  Path.lookup c.data (Path.align path c.field)

/-- Coerces a value as the engine coerces field values: strings are trimmed when `autoTrim` is
on, and become `null` when `convertEmptyStringToNull` is on and nothing is left. -/
def coerce (cfg : Config) : Option Json → Option Json
  | some (.str s) =>
    let t := if cfg.autoTrim then Text.trim s else s
    if cfg.emptyToNull && t.isEmpty then some .null else some (.str t)
  | v => v

def lookupCoerced (c : Context) (path : String) : Option Json := coerce c.config (c.lookup path)

def request (c : Context) : Request :=
  let scope := match c.kind with
    | .additional parent _ => some parent.scope
    | _ => c.baseType.map BaseType.scope
  ⟨c.field, c.pattern, c.ruleName, scope, c.value⟩

def displayName (c : Context) : String := c.formatter.displayName c.request

def displayNameOf (c : Context) (other : String) : String :=
  c.formatter.displayName { c.request with field := Path.align other c.field, pattern := other }

def renderMessage (c : Context) (fallback : String) (placeholders : List (String × String)) :
    String :=
  c.formatter.render c.request fallback placeholders

def renderCustom (c : Context) (template : String) (placeholders : List (String × String)) :
    String :=
  c.formatter.renderCustom c.request template placeholders

def fault (c : Context) (source : String) : Fault := .ruleExecution c.ruleName c.field source

end Context

end FieldRules
