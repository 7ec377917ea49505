import FieldRules.Rule.Parse
import FieldRules.Path

namespace FieldRules

/-- Field patterns with their rule definitions, in declaration order, each pattern once. -/
structure Schema where
  entries : List (String × Definition)
deriving Inhabited

namespace Schema

def empty : Schema := ⟨[]⟩

def insert (s : Schema) (pattern : String) (d : Definition) : Schema :=
  ⟨Assoc.insert s.entries pattern d⟩

def ofPairs (pairs : List (String × Definition)) : Schema := ⟨Assoc.ofPairs pairs⟩

def keys (s : Schema) : List String := s.entries.map (·.1)

def get? (s : Schema) (pattern : String) : Option Definition := s.entries.lookup pattern

def size (s : Schema) : Nat := s.entries.length

def ofJson (v : Json) : Except Fault Schema :=
  match v with
  | .obj fs =>
    (fs.mapM fun (kd : String × Json) => (Definition.ofJson kd.2).map (kd.1, ·)).map (⟨·⟩)
  | other => .error (.invalidDefinition other.render "schema must be a JSON object")

def ofText (text : String) : Except String Schema :=
  match Json.read text with
  | .error e => .error ("shape is not valid JSON: " ++ e.message)
  | .ok v => (ofJson v).mapError Fault.message

def childKeys (s : Schema) (parent : String) : List String :=
  let ps := Path.segments parent
  s.keys.foldl (fun acc key =>
    let segs := Path.segments key
    if ps.isPrefixOf segs then
      match segs[ps.length]? with
      | some c => if acc.contains c then acc else acc ++ [c]
      | none => acc
    else acc) []

end Schema

end FieldRules
