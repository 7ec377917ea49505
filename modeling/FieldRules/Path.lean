import FieldRules.Json.Value

namespace FieldRules.Path

def wildcard : String := "*"

def splitChar (sep : Char) : List Char → List (List Char)
  | [] => [[]]
  | c :: cs =>
    match splitChar sep cs with
    | [] => [[c]]
    | p :: ps => if c == sep then [] :: p :: ps else (c :: p) :: ps

def segments (path : String) : List String :=
  if path.isEmpty then [] else (splitChar '.' path.toList).map String.ofList

def join (pre seg : String) : String := if pre.isEmpty then seg else pre ++ "." ++ seg

def parseIndex (seg : String) : Option Nat :=
  let ds := match seg.toList with
    | '+' :: r => r
    | r => r
  if ds.isEmpty || !ds.all Char.isDigit then none
  else
    let n := ds.foldl (fun acc c => acc * 10 + (c.toNat - '0'.toNat)) 0
    if n < Nat.pow 2 64 then some n else none

def parseCanonicalIndex (seg : String) : Option Nat :=
  match seg.toList with
  | '+' :: _ => none
  | '0' :: _ :: _ => none
  | _ => parseIndex seg

def child (v : Json) (seg : String) : Option Json :=
  match v with
  | .obj fs => fs.lookup seg
  | .arr items => (parseIndex seg).bind fun i => items[i]?
  | _ => none

def expand : List String → String → Option Json → List (String × Option Json)
  | [], pre, cur => [(pre, cur)]
  | seg :: rest, pre, cur =>
    if seg == wildcard then
      match cur with
      | some (.arr items) =>
        (List.range items.length).zip items |>.flatMap fun (i, item) =>
          expand rest (join pre (Nat.repr i)) (some item)
      | some (.obj fs) => fs.flatMap fun (k, item) => expand rest (join pre k) (some item)
      | _ => []
    else expand rest (join pre seg) (cur.bind (child · seg))

/-- The concrete paths a pattern reaches in the data, in data order, each with its value when
there is one. A wildcard over anything but an array or object reaches nothing. -/
def resolve (data : Json) (pattern : String) : List (String × Option Json) :=
  expand (segments pattern) "" (some data)

def lookup (data : Json) (path : String) : Option Json :=
  (segments path).foldlM child data

/-- Pairs pattern segments with concrete ones: a wildcard takes the concrete segment, an equal
segment stays, and from the first difference (or the end of the concrete path) on the pattern's
segments are kept. -/
def alignSegments : List String → List String → List String
  | [], _ => []
  | segs, [] => segs
  | seg :: rest, c :: cs =>
    if seg == wildcard then c :: alignSegments rest cs
    else if c == seg then seg :: alignSegments rest cs
    else seg :: rest

/-- A reference pattern with its wildcards filled from a concrete path, so that `items.*.kind`
read for `items.2.qty` becomes `items.2.kind`. A pattern without `*` is returned as it is. -/
def align (pattern concrete : String) : String :=
  if !pattern.toList.contains '*' then pattern
  else ".".intercalate (alignSegments (segments pattern) (segments concrete))

def assignSegments : List String → Json → Json → Option Json
  | [], _, v => some v
  | seg :: rest, .obj fs, v =>
    match fs.lookup seg with
    | some w =>
      (assignSegments rest w v).map fun w' =>
        .obj (fs.map fun (k, x) => if k == seg then (k, w') else (k, x))
    | none => none
  | seg :: rest, .arr items, v =>
    match parseCanonicalIndex seg with
    | some i =>
      match items[i]? with
      | some w => (assignSegments rest w v).map fun w' => .arr (items.set i w')
      | none => none
    | none => none
  | _ :: _, _, _ => none

def assign (data : Json) (path : String) (v : Json) : Option Json :=
  assignSegments (segments path) data v

def escapeSegment (seg : String) : String :=
  String.ofList (seg.toList.flatMap fun c =>
    if c == '~' then ['~', '0'] else if c == '/' then ['~', '1'] else [c])

def toPointer (path : String) : String :=
  (segments path).foldl (fun acc seg => acc ++ "/" ++ escapeSegment seg) ""

end FieldRules.Path
