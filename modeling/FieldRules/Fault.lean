import FieldRules.Rule.Basic

namespace FieldRules

/-- Why a validation could not produce a report. -/
inductive Fault where
  /-- A rule name that no table holds, looked up for the chain's base type if it has one. -/
  | unknownRule (name : String) (baseType : Option BaseType)
  /-- A chain that declares a second base type. -/
  | conflictingDataType (field : String) (first second : BaseType)
  /-- A `custom:<name>` whose name is not registered. -/
  | unknownCustomRule (name : String)
  /-- A nested schema whose own run met a fault. -/
  | schemaShape (field : String) (source : Fault)
  /-- A rule whose check itself failed. -/
  | ruleExecution (rule field : String) (source : String)
  /-- Rule text or parameters that cannot be read. -/
  | invalidDefinition (definition reason : String)
deriving BEq, Repr, Inhabited

namespace Fault

def message : Fault → String
  | unknownRule name none => "unknown rule `" ++ name ++ "`"
  | unknownRule name (some t) => "unknown rule `" ++ name ++ "` for type `" ++ t.name ++ "`"
  | conflictingDataType field first second =>
    "field `" ++ field ++ "` declares conflicting data types `" ++ first.name ++ "` and `" ++
      second.name ++ "`"
  | unknownCustomRule name => "unknown custom rule `" ++ name ++ "`"
  | schemaShape field source =>
    "nested schema of `" ++ field ++ "` could not be validated: " ++ source.message
  | ruleExecution rule field source => "rule `" ++ rule ++ "` failed on `" ++ field ++ "`: " ++ source
  | invalidDefinition definition reason =>
    "invalid rule definition `" ++ definition ++ "`: " ++ reason

def kind : Fault → String
  | unknownRule .. => "UnknownRule"
  | conflictingDataType .. => "ConflictingDataType"
  | unknownCustomRule .. => "UnknownCustomRule"
  | schemaShape .. => "SchemaShape"
  | ruleExecution .. => "RuleExecution"
  | invalidDefinition .. => "InvalidDefinition"

def isCompileError : Fault → Bool
  | unknownRule .. | conflictingDataType .. | unknownCustomRule .. | invalidDefinition .. => true
  | _ => false

def sourceMessage? : Fault → Option String
  | schemaShape _ source => some source.message
  | ruleExecution _ _ source => some source
  | _ => none

end Fault

end FieldRules
