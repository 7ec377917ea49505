import FieldRules.Rule.Parse

namespace FieldRules

/-- One rule set of a union: its rules and the text it is shown by in messages. -/
structure RuleSet where
  rules : List Rule
  display : String
deriving Inhabited

namespace RuleSet

def ofJson : Json → Except String RuleSet
  | set => do
    let tokens ← match set with
      | .str text => (rulesOfText text).map (·.map Rule.display) |>.mapError Fault.message
      | .arr items => items.mapM fun item => match item with
        | .str s => .ok s
        | other => .error ("union rule tokens must be strings, got " ++ other.render)
      | other => .error ("union rule set must be a string or an array, got " ++ other.render)
    let rules ← (rulesOfTokens tokens).mapError Fault.message
    .ok ⟨rules, "|".intercalate tokens⟩

end RuleSet

def unionSets (param : String) : Except String (List RuleSet) :=
  match Json.read param with
  | .error e => .error ("union rule sets are not valid JSON: " ++ e.message)
  | .ok (.arr sets) => sets.mapM RuleSet.ofJson
  | .ok _ => .error "union rule sets must be a JSON array"

def unionStops (params : List String) : Except String Bool :=
  match params[1]? with
  | none | some "true" => .ok true
  | some "false" => .ok false
  | some other => .error ("stop_on_first_pass must be `true` or `false`, got `" ++ other ++ "`")

end FieldRules
