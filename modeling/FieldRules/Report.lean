import FieldRules.Path

namespace FieldRules

/-- One failed rule: its message key and rendered message. -/
structure Failure where
  rule : String
  message : String
deriving BEq, Repr, Inhabited

/-- Failures per concrete field, in the order the fields first failed. -/
structure Bag where
  entries : List (String × List Failure)
deriving BEq, Inhabited

/-- The four report shapes. -/
inductive ResponseType where
  | laravel
  | flat
  | grouped
  | nested
deriving BEq, DecidableEq, Repr, Inhabited

namespace ResponseType

def name : ResponseType → String
  | .laravel => "laravel"
  | .flat => "flat"
  | .grouped => "grouped"
  | .nested => "nested"

def ofName? (s : String) : Option ResponseType :=
  [ResponseType.laravel, .flat, .grouped, .nested].find? (·.name == s)

end ResponseType

/-- The node a report tree keeps per path: its own messages and its children in first-seen
order. -/
inductive Node where
  | mk (messages : List String) (children : List (String × Node))
deriving Inhabited

namespace Node

def empty : Node := .mk [] []

def add : Node → List String → List String → Node
  | .mk ms cs, [], new => .mk (ms ++ new) cs
  | .mk ms cs, seg :: rest, new =>
    match cs.lookup seg with
    | some child => .mk ms (cs.map fun (k, c) => if k == seg then (k, child.add rest new) else (k, c))
    | none => .mk ms (cs ++ [(seg, Node.empty.add rest new)])

def positions (cs : List (String × Node)) : Option (List Nat) :=
  cs.mapM fun (k, _) => Path.parseIndex k

def messageArray (ms : List String) : Json := .arr (ms.map .str)

mutual
def render : Node → Option Json → Json
  | .mk ms [], _ => messageArray ms
  | .mk ms (c :: cs), data =>
    let arrayForm : Option Json :=
      match ms, data, positions (c :: cs) with
      | [], some (.arr items), some idx =>
        if idx.all (· < items.length) then
          some (.arr (renderPositions (c :: cs) items (List.replicate items.length .null)))
        else none
      | _, _, _ => none
    match arrayForm with
    | some v => v
    | none =>
      let members := renderMembers (c :: cs) data
      .obj (if ms.isEmpty then members else Assoc.insert members "_errors" (messageArray ms))

def renderPositions : List (String × Node) → List Json → List Json → List Json
  | [], _, out => out
  | (k, child) :: rest, items, out =>
    match Path.parseIndex k with
    | some i => renderPositions rest items (out.set i (render child items[i]?))
    | none => renderPositions rest items out

def renderMembers : List (String × Node) → Option Json → List (String × Json)
  | [], _ => []
  | (k, child) :: rest, data =>
    (k, render child (data.bind fun d => Path.lookup d k)) :: renderMembers rest data
end

end Node

namespace Bag

def empty : Bag := ⟨[]⟩

def record (b : Bag) (field : String) (fs : List Failure) : Bag :=
  match b.entries.lookup field with
  | some old => ⟨Assoc.insert b.entries field (old ++ fs)⟩
  | none => ⟨b.entries ++ [(field, fs)]⟩

def isEmpty (b : Bag) : Bool := b.entries.isEmpty

def size (b : Bag) : Nat := b.entries.length

def fields (b : Bag) : List String := b.entries.map (·.1)

def get? (b : Bag) (field : String) : Option (List Failure) := b.entries.lookup field

def toLaravel (b : Bag) : Json :=
  .obj (b.entries.map fun (f, fs) => (f, .arr (fs.map fun x => .str x.message)))

def toFlat (b : Bag) : Json :=
  .arr (b.entries.flatMap fun (f, fs) => fs.map fun x =>
    .obj [("field", .str f), ("rule", .str x.rule), ("message", .str x.message)])

def firstByRule (fs : List Failure) : List (String × Json) :=
  fs.foldl (fun acc x => if acc.any (·.1 == x.rule) then acc else acc ++ [(x.rule, .str x.message)]) []

def toGrouped (b : Bag) : Json := .obj (b.entries.map fun (f, fs) => (f, .obj (firstByRule fs)))

def toNested (b : Bag) (data : Json) : Json :=
  if b.isEmpty then .obj []
  else
    let root := b.entries.foldl (fun n (f, fs) => n.add (Path.segments f) (fs.map (·.message))) Node.empty
    root.render (some data)

def format (b : Bag) (t : ResponseType) (data : Json) : Json :=
  match t with
  | .laravel => b.toLaravel
  | .flat => b.toFlat
  | .grouped => b.toGrouped
  | .nested => b.toNested data

end Bag

end FieldRules
