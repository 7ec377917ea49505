import FieldRules.Chain
import FieldRules.Check.Presence
import FieldRules.Check.Compare
import FieldRules.Check.Text
import FieldRules.Check.Number
import FieldRules.Check.Collection
import FieldRules.Check.Date
import FieldRules.Rule.Union
import FieldRules.Report

namespace FieldRules

/-- What a run needs besides data and schema: the rules, the options, the message sources and
the present moment, which the relative date bounds refer to. -/
structure Engine where
  registry : Registry
  config : Config
  formatter : Formatter
  now : Calendar.Moment

/-- The report of a run: the coerced data and the failures of each field. -/
structure Outcome where
  valid : Bool
  data : Json
  errors : Bag
  responseType : ResponseType

abbrev Eval := StateT (List String) (Except Fault)

/-- One field instance: where it was found, and its coerced value (absent when the path reaches
nothing). -/
structure Instance where
  data : Json
  schema : Schema
  pattern : String
  field : String
  value : Option Json

def Definition.weight : Definition → Nat
  | .text s => s.length
  | .tokens ts => ts.foldl (fun n t => n + t.length + 1) 0
  | .rules rs => rs.foldl (fun n r => n + r.display.length + 1) 0

/-- The size of a schema's text. A nested schema or rule set is written inside a parameter, so
its own size is smaller than that of the schema holding it. -/
def Schema.weight (s : Schema) : Nat :=
  s.entries.foldl (fun n (p, d) => n + p.length + d.weight + 1) 1

def coercionChanges : Option Json → Option Json → Bool
  | some (.str s), some (.str t) => s.length != t.length
  | some (.str _), some _ => true
  | _, _ => false

/-- Whether a value has a base type: strings, numbers (also numeric strings), booleans (also
`0`, `1` and their texts), arrays, dates, objects and file descriptors. -/
def BaseType.accepts : BaseType → Json → Bool
  | .string, .str _ => true
  | .number, v => (Json.asNumber? v).isSome
  | .boolean, v => (Json.asBool? v).isSome
  | .array, .arr _ => true
  | .date, v => (Check.dateOf? v).isSome
  | .object, .obj _ => true
  | .file, v => Check.isFile v
  | _, _ => false

def Builtin.placeholders (b : Builtin) (ctx : Context) (params : List String) :
    List (String × String) :=
  match b with
  | .presence r => Check.presencePlaceholders r ctx params
  | .comparison r => Check.comparisonPlaceholders r ctx params
  | .text r => Check.textPlaceholders r params
  | .number r => Check.numberPlaceholders r params
  | .list r => Check.listPlaceholders r params
  | .date r => Check.datePlaceholders r ctx params
  | .object .keys => [("values", ", ".intercalate params)]
  | .file r => Check.filePlaceholders r params
  | _ => []

def Handler.placeholders (h : Handler) (ctx : Context) (params : List String) :
    List (String × String) :=
  match h with
  | .builtin b => b.placeholders ctx params
  | .extension x => x.placeholders params ctx

/-- The message of a failing verdict: the handler's template with its placeholders and the
details found while checking, or the template the verdict brings. -/
def failureMessage (ctx : Context) (h : Handler) (params : List String) : Verdict → Option String
  | .fail => some (ctx.renderMessage h.fallback (h.placeholders ctx params))
  | .failWith extra => some (ctx.renderMessage h.fallback (h.placeholders ctx params ++ extra))
  | .failMessage t => some (ctx.renderCustom t (h.placeholders ctx params))
  | _ => none

def Builtin.verdict (b : Builtin) (now : Calendar.Moment) (ctx : Context) (v : Json)
    (params : List String) : Except String Verdict :=
  match b with
  | .type t => .ok (.ofBool (t.accepts v))
  | .presence r => .ok (Check.presence r ctx (some v) params)
  | .comparison r => .ok (Check.comparison r ctx v params)
  | .text r => Check.text r v params
  | .number r => Check.number r v params
  | .strictBoolean => .ok (.ofBool (match v with | .bool _ => true | _ => false))
  | .list r => Check.list r v params
  | .date r => .ok (Check.date r now ctx v params)
  | .object .keys => .ok (.ofBool (Check.hasKeys v params))
  | .file r => Check.file r v params
  | _ => .ok .pass

def shapeErrors (b : Bag) : String :=
  "; ".intercalate (b.entries.flatMap fun (f, fs) => fs.map fun x => f ++ ": " ++ x.message)

namespace Engine

def context (e : Engine) (inst : Instance) (chain : Chain) (r : CompiledRule) : Context :=
  { data := inst.data, schema := inst.schema, pattern := inst.pattern, field := inst.field,
    value := inst.value, config := e.config, formatter := e.formatter,
    baseType := chain.baseType, chain := chain.rules.map (·.rule), rule := r.rule,
    kind := r.kind, customNames := e.registry.custom.map (·.1) }

def instances (e : Engine) (data : Json) (chains : List (String × Chain)) :
    Json × List (String × Chain × String × Option Json) :=
  chains.foldl (fun (out, acc) (p, c) =>
    (Path.resolve data p).foldl (fun (out, acc) (path, raw) =>
      let v := Context.coerce e.config raw
      let out := match v with
        | some w => if coercionChanges raw v then (Path.assign out path w).getD out else out
        | none => out
      (out, acc ++ [(p, c, path, v)])) (out, acc)) (data, [])

mutual

def run (e : Engine) : Nat → Json → Schema → Eval Outcome
  | 0, data, _ => pure ⟨true, data, Bag.empty, e.config.responseType⟩
  | fuel + 1, data, schema => do
    let chains ← (schema.entries.mapM fun (p, d) => do
      let rules ← d.toRules
      let c ← e.registry.compile p rules
      pure (p, c) : Except Fault (List (String × Chain)))
    let (output, insts) := e.instances data chains
    let mut bag := Bag.empty
    for (p, c, path, v) in insts do
      let fs ← e.runChain fuel ⟨data, schema, p, path, v⟩ c e.config.bail
      if !fs.isEmpty then bag := bag.record path fs
    pure ⟨bag.isEmpty, output, bag, e.config.responseType⟩

def runChain (e : Engine) : Nat → Instance → Chain → Bool → Eval (List Failure)
  | 0, _, _, _ => pure []
  | fuel + 1, inst, chain, bail => do
    let present := !Check.isAbsent inst.value
    let mut failures : Array Failure := #[]
    for r in chain.rules do
      if present || r.handler.implicit then
        let ctx := e.context inst chain r
        let verdict ← e.check fuel ctx r.handler inst.value r.params
        if verdict == .halt then break
        match failureMessage ctx r.handler r.params verdict with
        | some msg =>
          failures := failures.push ⟨r.messageKey, msg⟩
          if bail then break
        | none => pure ()
    pure failures.toList

def check (e : Engine) : Nat → Context → Handler → Option Json → List String → Eval Verdict
  | 0, _, _, _, _ => pure .pass
  | _ + 1, ctx, .extension x, v, params => do
    if let some n := x.counter then
      if v.isSome then modify (· ++ [n])
    match x.check v params ctx with
    | .ok verdict => pure verdict
    | .error f => throw f
  | fuel + 1, ctx, .builtin b, v, params =>
    match b, v with
    | .presence r, _ => pure (Check.presence r ctx v params)
    | .union, _ => do
      let sets ← ((unionSets ((params.head?).getD "")).mapError ctx.fault : Except Fault _)
      let stop ← ((unionStops params).mapError ctx.fault : Except Fault _)
      if sets.isEmpty then return .fail
      let mut matched := false
      for set in sets do
        if !set.rules.isEmpty then
          let chain ← (e.registry.compile ctx.pattern set.rules : Except Fault Chain)
          let fs ← e.runChain fuel ⟨ctx.data, ctx.schema, ctx.pattern, ctx.field, ctx.value⟩
            chain true
          if fs.isEmpty then
            matched := true
            if stop then break
      if matched then pure .pass
      else pure (.failWith [("formats", ", ".intercalate (sets.map (·.display)))])
    | _, none => pure .pass
    | .object .shape, some (.obj fs) => do
      let schema ← ((Schema.ofText ((params.head?).getD "")).mapError ctx.fault :
        Except Fault Schema)
      let tally ← get
      match (e.run fuel (.obj fs) schema).run tally with
      | .ok (nested, tally) =>
        set tally
        if nested.valid then pure .pass
        else pure (.failWith [("errors", shapeErrors nested.errors)])
      | .error err => throw (.schemaShape ctx.field err)
    | .object .shape, some _ => pure .fail
    | .object .strict, some (.obj fs) => do
      let allowed ← if !params.isEmpty then pure (some params) else do
        let keys ← (match ctx.chain.find? (·.name == "shape") with
          | some shape =>
            ((Schema.ofText ((shape.params.head?).getD "")).map (·.childKeys "")).mapError
              ctx.fault
          | none => .ok (ctx.schema.childKeys ctx.pattern) : Except Fault (List String))
        pure (if keys.contains Path.wildcard then none else some keys)
      match allowed with
      | none => pure .pass
      | some keys =>
        match Check.unexpectedKeys fs keys with
        | [] => pure .pass
        | extra => pure (.failWith [("fields", ", ".intercalate extra)])
    | .object .strict, some _ => pure .fail
    | b, some w => (b.verdict e.now ctx w params).mapError ctx.fault

end

def validate (e : Engine) (data : Json) (schema : Schema) : Except Fault (Outcome × List String) :=
  (e.run (3 * schema.weight + 3) data schema).run []

end Engine

end FieldRules
