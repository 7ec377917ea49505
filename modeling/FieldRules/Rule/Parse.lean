import FieldRules.Fault
import FieldRules.Text.Blank
import FieldRules.Json.Read
import FieldRules.Json.Write

namespace FieldRules

def dropBytes (s : String) (n : Nat) : String :=
  let rec go : Nat → List Char → List Char
    | 0, cs => cs
    | _, [] => []
    | k + 1, c :: cs => go (k + 1 - c.utf8Size) cs
  String.ofList (go n s.toList)

def splitOnce (s : String) (c : Char) : Option (String × String) :=
  let cs := s.toList
  match cs.idxOf? c with
  | some i => some (String.ofList (cs.take i), String.ofList (cs.drop (i + 1)))
  | none => none

namespace Rule

def unionParams (token raw : String) : Except Fault (List String) :=
  let raw := Text.trim raw
  match Json.readLeading raw with
  | .error e => .error (.invalidDefinition token ("union rule sets are not valid JSON: " ++ e.message))
  | .ok none => .error (.invalidDefinition token "union requires rule sets")
  | .ok (some (sets, offset)) =>
    let rest := Text.trim (dropBytes raw offset)
    match rest.toList with
    | ',' :: flag => .ok [sets.render, Text.trim (String.ofList flag)]
    | [] => .ok [sets.render]
    | _ => .error (.invalidDefinition token "unexpected text after union rule sets")

def parse (token : String) : Except Fault Rule :=
  let token := Text.trim token
  if token.isEmpty then .error (.invalidDefinition token "empty rule token")
  else
    match splitOnce token ':' with
    | none => .ok (named token)
    | some (name, raw) =>
      let name := Text.trim name
      if name.isEmpty then .error (.invalidDefinition token "missing rule name")
      else if name == "union" then (unionParams token raw).map (⟨name, ·⟩)
      else if name == "shape" then .ok ⟨name, [Text.trim raw]⟩
      else .ok ⟨name, (splitTopLevel ',' raw).map Text.trim⟩

def union (sets : List (List Rule)) (stopOnFirstPass : Bool) : Rule :=
  let encoded := Json.arr (sets.map fun set => Json.arr (set.map fun r => Json.str r.display))
  ⟨"union", [encoded.render, if stopOnFirstPass then "true" else "false"]⟩

def shape (schema : Json) : Rule := ⟨"shape", [schema.render]⟩

end Rule

def rulesOfText (text : String) : Except Fault (List Rule) :=
  ((splitTopLevel '|' text).filter (!Text.isBlankText ·)).mapM Rule.parse

def rulesOfTokens (tokens : List String) : Except Fault (List Rule) := tokens.mapM Rule.parse

/-- A stored rule definition in one of its three forms. -/
inductive Definition where
  | text (s : String)
  | tokens (ts : List String)
  | rules (rs : List Rule)
deriving BEq, Repr, Inhabited

namespace Definition

def toRules : Definition → Except Fault (List Rule)
  | text s => rulesOfText s
  | tokens ts => rulesOfTokens ts
  | rules rs => .ok rs

def ofJson : Json → Except Fault Definition
  | .str s => .ok (text s)
  | .arr items =>
    match items.mapM Json.asString? with
    | some ts => .ok (tokens ts)
    | none => .error (.invalidDefinition (Json.arr items).render "rule tokens must be strings")
  | other => .error (.invalidDefinition other.render "expected a rule string or an array of rule tokens")

end Definition

end FieldRules
