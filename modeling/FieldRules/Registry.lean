import FieldRules.Handler.Params

namespace FieldRules

/-- What a custom predicate answers: a pass, a failure with the rule's message, or a failure
with a message template of its own. -/
inductive CustomOutcome where
  | pass
  | fail
  | message (template : String)

def CustomOutcome.verdict : CustomOutcome → Verdict
  | .pass => .pass
  | .fail => .fail
  | .message t => .failMessage t

/-- A rule given by a predicate on present values, as `extend`, `extend_with_message` and
`extend_async` register it: it passes absent values, offers its parameters as `:params`, and
fails with its own template or the default one. Its checks are tallied under `counter`, when it
has one. -/
structure CustomRule where
  name : String
  predicate : Json → List String → Context → CustomOutcome
  message : Option String
  counter : Option String

def CustomRule.handler (c : CustomRule) : Extension where
  check v params ctx := .ok (match v with
    | some w => (c.predicate w params ctx).verdict
    | none => .pass)
  implicit := false
  priority := 0
  validateParams _ := .ok ()
  fallback := c.message.getD defaultTemplate
  placeholders params _ := [("params", ", ".intercalate params)]
  counter := c.counter

/-- Rule names mapped to handlers. -/
structure Registry where
  base : List (String × Handler)
  additional : List (BaseType × List (String × Handler))
  custom : List (String × Handler)
deriving Inhabited

namespace Registry

def empty : Registry := ⟨[], [], []⟩

def register (r : Registry) (name : String) (h : Handler) : Registry :=
  { r with base := Assoc.insert r.base name h }

def registerAdditional (r : Registry) (parent : BaseType) (name : String) (h : Handler) :
    Registry :=
  let table := (r.additional.lookup parent).getD []
  { r with additional := Assoc.insert r.additional parent (Assoc.insert table name h) }

def registerCustom (r : Registry) (name : String) (h : Handler) : Registry :=
  { r with custom := Assoc.insert r.custom name h }

def extend (r : Registry) (c : CustomRule) : Registry := r.registerCustom c.name (.extension c.handler)

def builtins : Registry :=
  let r := Builtin.untyped.foldl (fun r (n, b) => r.register n (.builtin b)) empty
  BaseType.all.foldl (fun r t =>
    (Builtin.typed t).foldl (fun r (n, b) => r.registerAdditional t n (.builtin b)) r) r

def contains (r : Registry) (name : String) : Bool :=
  (r.base.lookup name).isSome || r.additional.any fun (_, t) => (t.lookup name).isSome

def containsCustom (r : Registry) (name : String) : Bool := (r.custom.lookup name).isSome

def sortNames (names : List String) : List String := names.mergeSort fun a b => decide (a ≤ b)

def additionalRules (r : Registry) (parent : BaseType) : List String :=
  sortNames (((r.additional.lookup parent).getD []).map (·.1))

def additionalHandler (r : Registry) (parent : BaseType) (name : String) :
    Option (RuleKind × Handler) :=
  ((r.additional.lookup parent).bind (·.lookup name)).map (.additional parent name, ·)

def resolve (r : Registry) (rule : Rule) (baseType : Option BaseType) :
    Except Fault (RuleKind × Handler) :=
  if rule.isCustom then
    match rule.params with
    | [] => .error (.invalidDefinition rule.display "custom rule requires a name")
    | c :: _ =>
      match r.custom.lookup c with
      | some h => .ok (.custom c, h)
      | none => .error (.unknownCustomRule c)
  else
    match r.base.lookup rule.name with
    | some h => .ok (.base, h)
    | none =>
      let dotted := (splitOnce rule.name '.').bind fun (p, child) =>
        (BaseType.ofName? p).map (·, child)
      match dotted with
      | some (parent, child) =>
        match r.additionalHandler parent child with
        | some res => .ok res
        | none => .error (.unknownRule child (some parent))
      | none =>
        match baseType.bind fun t => r.additionalHandler t rule.name with
        | some res => .ok res
        | none =>
          match r.additional.findSome? fun (t, _) => r.additionalHandler t rule.name with
          | some res => .ok res
          | none => .error (.unknownRule rule.name baseType)

/-- Resolves a bare name, as the rule of that name without parameters, to its handler; `custom`
needs a parameter, so it cannot be reached this way. -/
def getHandler (r : Registry) (name : String) (baseType : Option BaseType) : Except Fault Handler :=
  (r.resolve (Rule.named name) baseType).map (·.2)

def debugList (items : List String) : String := "[" ++ ", ".intercalate items ++ "]"

def debugText (r : Registry) : String :=
  let quoted (ns : List String) := debugList (ns.map Text.debugQuote)
  "RuleRegistry \x7b base: " ++ quoted (sortNames (r.base.map (·.1))) ++ ", additional: " ++
    debugList (r.additional.map fun (t, _) => "(" ++ t.debugName ++ ", " ++
      quoted (r.additionalRules t) ++ ")") ++
    ", custom: " ++ quoted (sortNames (r.custom.map (·.1))) ++ " \x7d"

end Registry

end FieldRules
