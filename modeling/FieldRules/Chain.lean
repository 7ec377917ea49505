import FieldRules.Registry

namespace FieldRules

/-- A rule bound to its handler. -/
structure CompiledRule where
  rule : Rule
  kind : RuleKind
  handler : Handler
  priority : Int
deriving Inhabited

namespace CompiledRule

def params (c : CompiledRule) : List String := c.kind.boundParams c.rule

def messageKey (c : CompiledRule) : String := c.kind.messageKey c.rule

end CompiledRule

/-- The rules of a field in execution order, with the base type the field declares. -/
structure Chain where
  baseType : Option BaseType
  rules : List CompiledRule
deriving Inhabited

def declaredType (field : String) (rules : List Rule) : Except Fault (Option BaseType) :=
  match rules.filterMap Rule.baseType? with
  | [] => .ok none
  | [t] => .ok (some t)
  | t :: u :: _ => .error (.conflictingDataType field t u)

namespace Registry

def bind (reg : Registry) (baseType : Option BaseType) (rule : Rule) :
    Except Fault CompiledRule := do
  let (kind, h) ← reg.resolve rule baseType
  let c : CompiledRule := ⟨rule, kind, h, h.priority⟩
  match h.validateParams c.params with
  | .ok () => .ok c
  | .error reason => .error (.invalidDefinition rule.display reason)

def insertByPriority (c : CompiledRule) : List CompiledRule → List CompiledRule
  | [] => [c]
  | d :: ds => if d.priority ≤ c.priority then c :: d :: ds else d :: insertByPriority c ds

/-- Orders rules by descending priority, keeping the written order among equals: each rule goes
before the later rules of no higher priority. -/
def byPriority (rules : List CompiledRule) : List CompiledRule :=
  rules.foldr insertByPriority []

def compile (reg : Registry) (field : String) (rules : List Rule) : Except Fault Chain := do
  let t ← declaredType field rules
  let bound ← rules.mapM (reg.bind t)
  .ok ⟨t, byPriority bound⟩

end Registry

namespace Chain

def find? (c : Chain) (name : String) : Option CompiledRule := c.rules.find? (·.rule.name == name)

def debugRule (r : Rule) : String :=
  "Rule \x7b name: " ++ Text.debugQuote r.name ++ ", params: " ++
    Registry.debugList (r.params.map Text.debugQuote) ++ " \x7d"

def debugKind : RuleKind → String
  | .base => "Base"
  | .additional t n => "Additional \x7b parent: " ++ t.debugName ++ ", name: " ++ Text.debugQuote n ++ " \x7d"
  | .custom n => "Custom \x7b name: " ++ Text.debugQuote n ++ " \x7d"

def debugText (c : Chain) : String :=
  let bt := match c.baseType with
    | some t => "Some(" ++ t.debugName ++ ")"
    | none => "None"
  "CompiledChain \x7b base_type: " ++ bt ++ ", rules: " ++
    Registry.debugList (c.rules.map fun r =>
      "CompiledRule \x7b rule: " ++ debugRule r.rule ++ ", kind: " ++ debugKind r.kind ++
        ", priority: RulePriority(" ++ toString r.priority ++ "), .. \x7d") ++ " \x7d"

end Chain

end FieldRules
