
namespace FieldRules

/-- The fundamental type a chain declares. -/
inductive BaseType where
  | string
  | number
  | boolean
  | array
  | date
  | object
  | file
deriving BEq, DecidableEq, Repr, Inhabited

namespace BaseType

def all : List BaseType := [.string, .number, .boolean, .array, .date, .object, .file]

def name : BaseType → String
  | .string => "string"
  | .number => "number"
  | .boolean => "boolean"
  | .array => "array"
  | .date => "date"
  | .object => "object"
  | .file => "file"

def ofName? (s : String) : Option BaseType := all.find? (·.name == s)

def scope : BaseType → String
  | .number => "numeric"
  | t => t.name

def debugName : BaseType → String
  | .string => "String"
  | .number => "Number"
  | .boolean => "Boolean"
  | .array => "Array"
  | .date => "Date"
  | .object => "Object"
  | .file => "File"

end BaseType

/-- One rule invocation: a name and its ordered parameters. -/
structure Rule where
  name : String
  params : List String
deriving BEq, DecidableEq, Repr, Inhabited

namespace Rule

def named (name : String) : Rule := ⟨name, []⟩

def display (r : Rule) : String :=
  if r.params.isEmpty then r.name else r.name ++ ":" ++ ",".intercalate r.params

def isCustom (r : Rule) : Bool := r.name == "custom"

def baseType? (r : Rule) : Option BaseType := BaseType.ofName? r.name

def custom (name : String) (extra : List String) : Rule := ⟨"custom", name :: extra⟩

end Rule

/-- Where the splitter stands: bracket depth, inside a string or not, and whether the previous
character in a string was a backslash. -/
structure SplitState where
  depth : Nat
  inString : Bool
  escaped : Bool
deriving BEq, DecidableEq, Repr

namespace SplitState

def initial : SplitState := ⟨0, false, false⟩

/-- One character read by the splitter: the next state, or `none` when the character is the
separator at depth zero outside a string. Inside a string a backslash escapes the next character
and a quote ends the string; outside, a quote opens a string only within brackets, and brackets
and parentheses move the depth, which never goes below zero. -/
def step (sep : Char) (st : SplitState) (c : Char) : Option SplitState :=
  if st.inString then
    if st.escaped then some { st with escaped := false }
    else if c == '\\' then some { st with escaped := true }
    else if c == '"' then some { st with inString := false }
    else some st
  else if c == '"' && st.depth > 0 then some { st with inString := true }
  else if c == '[' || c == '{' || c == '(' then some { st with depth := st.depth + 1 }
  else if c == ']' || c == '}' || c == ')' then some { st with depth := st.depth - 1 }
  else if c == sep && st.depth == 0 then none
  else some st

end SplitState

/-- Cuts characters at every separator that `SplitState.step` reports, starting from `st` with
the reversed piece `cur` already read. The last piece is always present. -/
def splitChars (sep : Char) : SplitState → List Char → List Char → List (List Char)
  | _, cur, [] => [cur.reverse]
  | st, cur, c :: cs =>
    match st.step sep c with
    | none => cur.reverse :: splitChars sep st [] cs
    | some st' => splitChars sep st' (c :: cur) cs

def splitTopLevel (sep : Char) (s : String) : List String :=
  (splitChars sep SplitState.initial [] s.toList).map String.ofList

end FieldRules
