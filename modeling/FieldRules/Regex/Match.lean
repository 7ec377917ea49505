import FieldRules.Regex.Class

namespace FieldRules.Regex

/-- The flags in force: ignore case (`i`), line anchors (`m`), `.` matching a line feed (`s`),
Unicode classes (`u`) and carriage returns as line ends (`R`). -/
structure Flags where
  ignoreCase : Bool
  multiLine : Bool
  dotAll : Bool
  unicode : Bool
  crlf : Bool

namespace Flags

def initial : Flags := ⟨false, false, false, true, false⟩

def apply (f : Flags) (items : List FlagItem) : Flags :=
  (items.foldl (fun (acc : Flags × Bool) it =>
    let (f, neg) := acc
    match it with
    | .negation => (f, true)
    | .flag 'i' => ({ f with ignoreCase := !neg }, neg)
    | .flag 'm' => ({ f with multiLine := !neg }, neg)
    | .flag 's' => ({ f with dotAll := !neg }, neg)
    | .flag 'u' => ({ f with unicode := !neg }, neg)
    | .flag 'R' => ({ f with crlf := !neg }, neg)
    | .flag _ => (f, neg)) (f, false)).1

end Flags

/-- Assertions with their flags applied. -/
inductive Check where
  | startText
  | endText
  | startLine (crlf : Bool)
  | endLine (crlf : Bool)
  | boundary (unicode : Bool)
  | notBoundary (unicode : Bool)
  | wordStart (unicode : Bool)
  | wordEnd (unicode : Bool)
  | wordStartHalf (unicode : Bool)
  | wordEndHalf (unicode : Bool)

/-- A pattern with its flags applied. -/
inductive Node where
  | empty
  | char (p : Char → Bool)
  | check (k : Check)
  | cat (xs : List Node)
  | alt (xs : List Node)
  | rep (x : Node) (min : Nat) (max : Option Nat)

instance : Inhabited Node := ⟨.empty⟩

mutual
def itemClass (f : Flags) : ClassItem → Except Error (Char → Bool)
  | .lit c => .ok (· == c)
  | .range lo hi => .ok fun c => lo ≤ c && c ≤ hi
  | .perl k negated => .ok (foldAndNegate false negated (perlClass f.unicode k))
  | .unicode q negated span =>
    match queryClass q with
    | .ok (p, differs) => .ok (foldAndNegate f.ignoreCase (negated != differs) p)
    | .error k => .error ⟨k, span, none⟩
  | .ascii name negated => .ok (foldAndNegate f.ignoreCase negated (asciiClass name))
  | .bracket negated set => (setClass f set).map (foldAndNegate f.ignoreCase negated)

def itemsClass (f : Flags) : List ClassItem → Except Error (Char → Bool)
  | [] => .ok fun _ => false
  | x :: xs => do
    let p ← itemClass f x
    let q ← itemsClass f xs
    .ok fun c => p c || q c

def setClass (f : Flags) : ClassSet → Except Error (Char → Bool)
  | .items xs => itemsClass f xs
  | .op k lhs rhs => do
    let l ← setClass f lhs
    let r ← setClass f rhs
    let l := if f.ignoreCase then foldClass l else l
    let r := if f.ignoreCase then foldClass r else r
    .ok (match k with
      | .intersection => fun c => l c && r c
      | .difference => fun c => l c && !r c
      | .symmetricDifference => fun c => l c != r c)
end

def isLineEnd (f : Flags) (c : Char) : Bool := c == '\n' || (f.crlf && c == '\r')

def lookCheck (f : Flags) : Look → Check
  | .startLine => if f.multiLine then .startLine f.crlf else .startText
  | .endLine => if f.multiLine then .endLine f.crlf else .endText
  | .startText => .startText
  | .endText => .endText
  | .wordBoundary => .boundary f.unicode
  | .notWordBoundary => .notBoundary f.unicode
  | .wordStart => .wordStart f.unicode
  | .wordEnd => .wordEnd f.unicode
  | .wordStartHalf => .wordStartHalf f.unicode
  | .wordEndHalf => .wordEndHalf f.unicode

mutual
/-- Applies flags to a pattern tree; gives the node and the flags in force after it (a flag
group changes them for what follows, a group restores them at its end). -/
def translate (f : Flags) : Ast → Except Error (Node × Flags)
  | .empty => .ok (.empty, f)
  | .flags items => .ok (.empty, f.apply items)
  | .lit c => .ok (.char (if f.ignoreCase then foldClass (· == c) else (· == c)), f)
  | .dot => .ok (.char (if f.dotAll then fun _ => true else fun c => !isLineEnd f c), f)
  | .look k => .ok (.check (lookCheck f k), f)
  | .perl k negated => .ok (.char (foldAndNegate false negated (perlClass f.unicode k)), f)
  | .unicode q negated span =>
    match queryClass q with
    | .ok (p, differs) => .ok (.char (foldAndNegate f.ignoreCase (negated != differs) p), f)
    | .error k => .error ⟨k, span, none⟩
  | .bracket negated set _ =>
    (setClass f set).map fun p => (.char (foldAndNegate f.ignoreCase negated p), f)
  | .rep body lo hi => (translate f body).map fun (n, f') => (.rep n lo hi, f')
  | .group flags body => do
    let inner := match flags with
      | some items => f.apply items
      | none => f
    let (n, _) ← translate inner body
    .ok (n, f)
  | .concat xs => (translateSeq f xs).map fun (ns, f') => (.cat ns, f')
  | .alt xs => (translateSeq f xs).map fun (ns, f') => (.alt ns, f')

def translateSeq (f : Flags) : List Ast → Except Error (List Node × Flags)
  | [] => .ok ([], f)
  | x :: xs => do
    let (n, f') ← translate f x
    let (ns, f'') ← translateSeq f' xs
    .ok (n :: ns, f'')
end

/-- One step of a matching program. -/
inductive Step where
  /-- Takes a character of a class and goes on. -/
  | take (p : Char → Bool) (next : Nat)
  /-- Goes both ways. -/
  | split (a b : Nat)
  /-- Goes on when an assertion holds here. -/
  | check (k : Check) (next : Nat)
  /-- The end of the program: a match. -/
  | done

instance : Inhabited Step := ⟨.done⟩

def emit (prog : Array Step) (s : Step) : Array Step × Nat := (prog.push s, prog.size)

def layTimes (lay : Array Step → Nat → Array Step × Nat) (prog : Array Step) (next : Nat) :
    Nat → Array Step × Nat
  | 0 => (prog, next)
  | n + 1 =>
    let (prog, e) := lay prog next
    layTimes lay prog e n

def layOptional (lay : Array Step → Nat → Array Step × Nat) (prog : Array Step) (next : Nat) :
    Nat → Array Step × Nat
  | 0 => (prog, next)
  | n + 1 =>
    let (prog, rest) := layOptional lay prog next n
    let (prog, e) := lay prog rest
    emit prog (.split e next)

mutual
def layNode (prog : Array Step) (next : Nat) : Node → Array Step × Nat
  | .empty => (prog, next)
  | .char p => emit prog (.take p next)
  | .check k => emit prog (.check k next)
  | .cat xs => layCat prog next xs
  | .alt xs => layAlt prog next xs
  | .rep x lo hi =>
    let (prog, tail) := match hi with
      | none =>
        let (prog, loop) := emit prog (.split 0 0)
        let (prog, body) := layNode prog loop x
        (prog.set! loop (.split body next), loop)
      | some h => layOptional (fun p e => layNode p e x) prog next (h - lo)
    layTimes (fun p e => layNode p e x) prog tail lo

def layCat (prog : Array Step) (next : Nat) : List Node → Array Step × Nat
  | [] => (prog, next)
  | x :: xs =>
    let (prog, e) := layCat prog next xs
    layNode prog e x

def layAlt (prog : Array Step) (next : Nat) : List Node → Array Step × Nat
  | [] => emit prog (.take (fun _ => false) next)
  | [x] => layNode prog next x
  | x :: xs =>
    let (prog, rest) := layAlt prog next xs
    let (prog, e) := layNode prog next x
    emit prog (.split e rest)
end

def isWordChar (unicode : Bool) (c : Char) : Bool :=
  if unicode then Unicode.isWord c else c.isAlphanum || c == '_'

def Check.holds (k : Check) (before after : Option Char) : Bool :=
  let word (u : Bool) (c : Option Char) : Bool := (c.map (isWordChar u)).getD false
  match k with
  | .startText => before.isNone
  | .endText => after.isNone
  | .startLine crlf =>
    before.isNone || before == some '\n' || (crlf && before == some '\r' && after != some '\n')
  | .endLine crlf =>
    after.isNone || after == some '\n' && !(crlf && before == some '\r') || (crlf && after == some '\r')
  | .boundary u => word u before != word u after
  | .notBoundary u => word u before == word u after
  | .wordStart u => !word u before && word u after
  | .wordEnd u => word u before && !word u after
  | .wordStartHalf u => !word u before
  | .wordEndHalf u => !word u after

/-- A compiled pattern: its program and entry. -/
structure Matcher where
  prog : Array Step
  start : Nat

instance : Inhabited Matcher := ⟨⟨#[.done], 0⟩⟩

namespace Matcher

/-- Adds a step and everything reachable from it without taking a character (assertions
checked between `before` and `after`) to a set of steps; `seen` marks steps already added. The
fuel bounds the number of steps visited. -/
def close (re : Matcher) (before after : Option Char) :
    Nat → List Nat → Array Bool × List Nat → Array Bool × List Nat
  | 0, _, acc => acc
  | _, [], acc => acc
  | fuel + 1, pc :: rest, (seen, out) =>
    if seen.getD pc true then close re before after fuel rest (seen, out)
    else
      let seen := seen.set! pc true
      match re.prog[pc]? with
      | some (.split a b) => close re before after fuel (a :: b :: rest) (seen, out)
      | some (.check k next) =>
        if k.holds before after then close re before after fuel (next :: rest) (seen, out)
        else close re before after fuel rest (seen, out)
      | some _ => close re before after fuel rest (seen, pc :: out)
      | none => close re before after fuel rest (seen, out)

def closure (re : Matcher) (before after : Option Char) (pcs : List Nat) : List Nat :=
  (close re before after (2 * re.prog.size + pcs.length + 2) pcs
    (Array.replicate re.prog.size false, [])).2.reverse

def accepts (re : Matcher) (pcs : List Nat) : Bool :=
  pcs.any fun pc => match re.prog[pc]? with
    | some .done => true
    | _ => false

def advance (re : Matcher) (c : Char) (pcs : List Nat) : List Nat :=
  pcs.filterMap fun pc => match re.prog[pc]? with
    | some (Step.take p next) => if p c then some next else none
    | _ => none

def search (re : Matcher) : Option Char → List Char → List Nat → Bool
  | before, [], pcs => re.accepts (re.closure before none (re.start :: pcs))
  | before, c :: rest, pcs =>
    let here := re.closure before (some c) (re.start :: pcs)
    re.accepts here || re.search (some c) rest (re.advance c here)

def isMatch (re : Matcher) (s : String) : Bool := re.search none s.toList []

end Matcher

def lineColumn (pat : List Char) (offset : Nat) : Nat × Nat :=
  (pat.take offset).foldl (fun (l, c) ch => if ch == '\n' then (l + 1, 1) else (l, c + 1)) (1, 1)

/-- The lines of a text: cut at line feeds, a carriage return before a line feed dropped, and no
empty last line after a final line feed. -/
def textLines (s : String) : List String :=
  let parts := s.splitOn "\n"
  let parts := if s.endsWith "\n" then parts.dropLast else parts
  parts.map fun p => if p.endsWith "\r" then String.ofList p.toList.dropLast else p

def caretLine (pad : Nat) (spans : List ((Nat × Nat) × (Nat × Nat))) : String :=
  let (out, _) := spans.foldl (fun (acc : String × Nat) sp =>
    let (out, pos) := acc
    let ((_, startCol), (_, endCol)) := sp
    let gap := startCol - 1 - pos
    let carets := max 1 (endCol - startCol)
    (out ++ String.ofList (List.replicate gap ' ') ++ String.ofList (List.replicate carets '^'),
      pos + gap + carets)) ("", 0)
  String.ofList (List.replicate pad ' ') ++ out

/-- The text of a refused pattern: the pattern with carets under the faulty spans, then the
fault. A pattern of several lines is shown between rules of tildes with numbered lines. -/
def Error.render (pattern : String) (e : Error) : String :=
  let chars := pattern.toList
  let pos (sp : Span) := (lineColumn chars sp.start, lineColumn chars sp.stop)
  let spans := (e.span :: e.aux.toList).map pos
  let spans := spans.mergeSort fun a b => a.1.1 < b.1.1 || (a.1.1 == b.1.1 && a.1.2 ≤ b.1.2)
  let lines := textLines pattern
  let lineCount := lines.length + (if pattern.endsWith "\n" then 1 else 0)
  let width := if lineCount ≤ 1 then 0 else (Nat.repr lineCount).length
  let pad := if width == 0 then 4 else width + 2
  let oneLine := spans.filter fun ((l1, _), (l2, _)) => l1 == l2
  let multi := spans.filter fun ((l1, _), (l2, _)) => l1 != l2
  let notated := (lines.zipIdx.map fun (line, i) =>
    let number := if width == 0 then "    "
      else String.ofList (List.replicate (width - (Nat.repr (i + 1)).length) ' ') ++
        Nat.repr (i + 1) ++ ": "
    let here := oneLine.filter fun ((l, _), _) => l == i + 1
    number ++ line ++ "\n" ++ (if here.isEmpty then "" else caretLine pad here ++ "\n"))
  let body := String.join notated
  if pattern.toList.contains '\n' then
    let divider := String.ofList (List.replicate 79 '~')
    let notes := multi.map fun ((l1, c1), (l2, c2)) =>
      "on line " ++ Nat.repr l1 ++ " (column " ++ Nat.repr c1 ++ ") through line " ++
        Nat.repr l2 ++ " (column " ++ Nat.repr (c2 - 1) ++ ")"
    "regex parse error:\n" ++ divider ++ "\n" ++ body ++ divider ++ "\n" ++
      (if notes.isEmpty then "" else "\n".intercalate notes ++ "\n") ++ "error: " ++ e.kind.message
  else "regex parse error:\n" ++ body ++ "error: " ++ e.kind.message

def compile (pattern : String) : Except String Matcher :=
  match readPattern pattern >>= fun ast => translate Flags.initial ast with
  | .error e => .error (e.render pattern)
  | .ok (node, _) =>
    let (prog, start) := layNode #[Step.done] 0 node
    .ok ⟨prog, start⟩

end FieldRules.Regex
