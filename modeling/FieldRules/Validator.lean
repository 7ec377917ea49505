import FieldRules.Engine

namespace FieldRules

/-- A registry with catalogs by locale and default options. -/
structure Validator where
  registry : Registry
  catalogs : List (String × Catalog)
  config : Config

namespace Validator

def ofRegistry (r : Registry) : Validator := ⟨r, [], Config.default⟩

def new : Validator := ofRegistry Registry.builtins

def withConfig (v : Validator) (c : Config) : Validator := { v with config := c }

def addCatalog (v : Validator) (locale : String) (c : Catalog) : Validator :=
  { v with catalogs := Assoc.insert v.catalogs locale c }

def isLocaleSeparator (c : Char) : Bool := c == '-' || c == '_'

def catalog? (v : Validator) (locale : String) : Option Catalog :=
  match v.catalogs.lookup locale with
  | some c => some c
  | none =>
    if locale.toList.any isLocaleSeparator then
      v.catalogs.lookup (String.ofList (locale.toList.takeWhile (!isLocaleSeparator ·)))
    else none

def validateWith (v : Validator) (now : Calendar.Moment) (data : Json) (schema : Schema)
    (config : Config) : Except Fault (Outcome × List String) :=
  Engine.validate ⟨v.registry, config, ⟨config.messages, v.catalog? config.locale⟩, now⟩ data schema

def validate (v : Validator) (now : Calendar.Moment) (data : Json) (schema : Schema) :
    Except Fault (Outcome × List String) :=
  v.validateWith now data schema v.config

end Validator

end FieldRules
