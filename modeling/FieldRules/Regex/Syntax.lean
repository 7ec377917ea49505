import FieldRules.Unicode.Property
import FieldRules.Unicode.Category
import FieldRules.Text.Blank

namespace FieldRules.Regex

/-- A stretch of pattern text, by character offsets. -/
structure Span where
  start : Nat
  stop : Nat
deriving BEq, Repr, Inhabited

/-- What is wrong with a pattern. -/
inductive ErrorKind where
  | classEscapeInvalid
  | classRangeInvalid
  | classRangeLiteral
  | classUnclosed
  | decimalEmpty
  | decimalInvalid
  | escapeHexEmpty
  | escapeHexInvalid
  | escapeHexInvalidDigit
  | escapeUnexpectedEof
  | escapeUnrecognized
  | flagDanglingNegation
  | flagDuplicate
  | flagRepeatedNegation
  | flagUnexpectedEof
  | flagUnrecognized
  | groupNameDuplicate
  | groupNameEmpty
  | groupNameInvalid
  | groupNameUnexpectedEof
  | groupUnclosed
  | groupUnopened
  | nestLimitExceeded (limit : Nat)
  | repetitionCountInvalid
  | repetitionCountDecimalEmpty
  | repetitionCountUnclosed
  | repetitionMissing
  | specialWordBoundaryUnclosed
  | specialWordBoundaryUnrecognized
  | specialWordOrRepetitionUnexpectedEof
  | unicodeClassInvalid
  | unsupportedBackreference
  | unsupportedLookAround
  | unicodeNotAllowed
  | invalidUtf8
  | propertyNotFound
  | propertyValueNotFound
deriving BEq, Repr, Inhabited

namespace ErrorKind

def message : ErrorKind → String
  | classEscapeInvalid => "invalid escape sequence found in character class"
  | classRangeInvalid => "invalid character class range, the start must be <= the end"
  | classRangeLiteral => "invalid range boundary, must be a literal"
  | classUnclosed => "unclosed character class"
  | decimalEmpty => "decimal literal empty"
  | decimalInvalid => "decimal literal invalid"
  | escapeHexEmpty => "hexadecimal literal empty"
  | escapeHexInvalid => "hexadecimal literal is not a Unicode scalar value"
  | escapeHexInvalidDigit => "invalid hexadecimal digit"
  | escapeUnexpectedEof => "incomplete escape sequence, reached end of pattern prematurely"
  | escapeUnrecognized => "unrecognized escape sequence"
  | flagDanglingNegation => "dangling flag negation operator"
  | flagDuplicate => "duplicate flag"
  | flagRepeatedNegation => "flag negation operator repeated"
  | flagUnexpectedEof => "expected flag but got end of regex"
  | flagUnrecognized => "unrecognized flag"
  | groupNameDuplicate => "duplicate capture group name"
  | groupNameEmpty => "empty capture group name"
  | groupNameInvalid => "invalid capture group character"
  | groupNameUnexpectedEof => "unclosed capture group name"
  | groupUnclosed => "unclosed group"
  | groupUnopened => "unopened group"
  | nestLimitExceeded limit =>
    "exceed the maximum number of nested parentheses/brackets (" ++ Nat.repr limit ++ ")"
  | repetitionCountInvalid => "invalid repetition count range, the start must be <= the end"
  | repetitionCountDecimalEmpty => "repetition quantifier expects a valid decimal"
  | repetitionCountUnclosed => "unclosed counted repetition"
  | repetitionMissing => "repetition operator missing expression"
  | specialWordBoundaryUnclosed =>
    "special word boundary assertion is either unclosed or contains an invalid character"
  | specialWordBoundaryUnrecognized =>
    "unrecognized special word boundary assertion, valid choices are: start, end, start-half or end-half"
  | specialWordOrRepetitionUnexpectedEof =>
    "found either the beginning of a special word boundary or a bounded repetition on a \\b with an opening brace, but no closing brace"
  | unicodeClassInvalid => "invalid Unicode character class"
  | unsupportedBackreference => "backreferences are not supported"
  | unsupportedLookAround => "look-around, including look-ahead and look-behind, is not supported"
  | unicodeNotAllowed => "Unicode not allowed here"
  | invalidUtf8 => "pattern can match invalid UTF-8"
  | propertyNotFound => "Unicode property not found"
  | propertyValueNotFound => "Unicode property value not found"

end ErrorKind

/-- A fault with the span it concerns and, for a repeated flag or name, the span of the first
occurrence. -/
structure Error where
  kind : ErrorKind
  span : Span
  aux : Option Span
deriving Repr, Inhabited

/-- An item of a flag group: a flag letter or the negation that turns the following ones off. -/
inductive FlagItem where
  | negation
  | flag (c : Char)
deriving BEq, Repr, Inhabited

/-- The Perl classes `\d`, `\s` and `\w`. -/
inductive PerlKind where
  | digit
  | space
  | word
deriving BEq, Repr, Inhabited

/-- Zero-width assertions. -/
inductive Look where
  | startLine
  | endLine
  | startText
  | endText
  | wordBoundary
  | notWordBoundary
  | wordStart
  | wordEnd
  | wordStartHalf
  | wordEndHalf
deriving BEq, Repr, Inhabited

/-- A Unicode class as written after `\p`: one letter, a name, or a property with a value;
`differs` marks `!=`. -/
inductive UnicodeQuery where
  | oneLetter (c : Char)
  | named (name : String)
  | namedValue (differs : Bool) (name value : String)
deriving Repr, Inhabited

/-- Operations between the parts of a bracketed class. -/
inductive SetOp where
  | intersection
  | difference
  | symmetricDifference
deriving BEq, Repr, Inhabited

mutual
/-- An item of a bracketed class. -/
inductive ClassItem where
  | lit (c : Char)
  | range (lo hi : Char)
  | perl (k : PerlKind) (negated : Bool)
  | unicode (q : UnicodeQuery) (negated : Bool) (span : Span)
  | ascii (name : String) (negated : Bool)
  | bracket (negated : Bool) (set : ClassSet)
/-- The contents of a bracketed class: a union of items, or an operation on two contents. -/
inductive ClassSet where
  | items (xs : List ClassItem)
  | op (k : SetOp) (lhs rhs : ClassSet)
end

instance : Inhabited ClassSet := ⟨.items []⟩

/-- The tree of a pattern. -/
inductive Ast where
  | empty
  | flags (items : List FlagItem)
  | lit (c : Char)
  | dot
  | look (k : Look)
  | perl (k : PerlKind) (negated : Bool)
  | unicode (q : UnicodeQuery) (negated : Bool) (span : Span)
  | bracket (negated : Bool) (set : ClassSet) (span : Span)
  | rep (body : Ast) (min : Nat) (max : Option Nat)
  | group (flags : Option (List FlagItem)) (body : Ast)
  | concat (xs : List Ast)
  | alt (xs : List Ast)
deriving Inhabited

/-- What a single escape or character reads as, with its span. -/
inductive Primitive where
  | lit (c : Char) (span : Span)
  | look (k : Look) (span : Span)
  | dot (span : Span)
  | perl (k : PerlKind) (negated : Bool) (span : Span)
  | unicode (q : UnicodeQuery) (negated : Bool) (span : Span)
deriving Inhabited

namespace Primitive

def span : Primitive → Span
  | lit _ s | look _ s | dot s | perl _ _ s | unicode _ _ s => s

def toAst : Primitive → Ast
  | lit c _ => .lit c
  | look k _ => .look k
  | dot _ => .dot
  | perl k n _ => .perl k n
  | unicode q n s => .unicode q n s

def toItem : Primitive → Except Error ClassItem
  | lit c _ => .ok (.lit c)
  | perl k n _ => .ok (.perl k n)
  | unicode q n s => .ok (.unicode q n s)
  | p => .error ⟨.classEscapeInvalid, p.span, none⟩

def toRangeEnd : Primitive → Except Error Char
  | lit c _ => .ok c
  | p => .error ⟨.classRangeLiteral, p.span, none⟩

end Primitive

/-- Where the reader stands: its offset, whether blanks and comments are skipped (flag `x`), the
number of capture groups so far and the names given to them. -/
structure Reader where
  pat : Array Char
  pos : Nat
  ignoreSpace : Bool
  captures : Nat
  names : List (String × Span)

namespace Reader

def isEof (r : Reader) : Bool := r.pos ≥ r.pat.size

def cur (r : Reader) : Char := r.pat.getD r.pos '\x00'

def peek (r : Reader) : Option Char := r.pat[r.pos + 1]?

def here (r : Reader) : Span := ⟨r.pos, r.pos⟩

def spanChar (r : Reader) : Span := ⟨r.pos, r.pos + 1⟩

def fail {α : Type} (kind : ErrorKind) (span : Span) : Except Error α := .error ⟨kind, span, none⟩

def bump (r : Reader) : Reader := { r with pos := r.pos + 1 }

def isSpace (c : Char) : Bool := Text.isBlank c

def skipSpace (pat : Array Char) : Nat → Nat → Nat
  | 0, i => i
  | fuel + 1, i =>
    match pat[i]? with
    | some c =>
      if isSpace c then skipSpace pat fuel (i + 1)
      else if c == '#' then
        let rest := (pat.toList.drop (i + 1))
        skipSpace pat fuel (i + 1 + (match rest.idxOf? '\n' with
          | some k => k + 1
          | none => rest.length))
      else i
    | none => i

def bumpSpace (r : Reader) : Reader :=
  if r.ignoreSpace then { r with pos := skipSpace r.pat (r.pat.size + 1) r.pos } else r

def bumpAndSpace (r : Reader) : Bool × Reader :=
  let r := (r.bump).bumpSpace
  (!r.isEof, r)

/-- The first character after the current one that is neither a blank nor the first `#` after
it, when blanks are ignored; the next character otherwise. -/
def peekSpace (r : Reader) : Option Char :=
  if r.ignoreSpace && !r.isEof then
    let rest := r.pat.toList.drop (r.pos + 1)
    let rec scan : List Char → Bool → Option Char
      | [], _ => none
      | c :: cs, inComment =>
        if isSpace c then scan cs inComment
        else if !inComment && c == '#' then scan cs true
        else some c
    (scan rest false).or rest.head?
  else r.peek

def bumpIf (r : Reader) (s : String) : Option Reader :=
  let cs := s.toList
  if (r.pat.toList.drop r.pos).take cs.length == cs then some { r with pos := r.pos + cs.length }
  else none

def slice (r : Reader) (a b : Nat) : String := String.ofList ((r.pat.toList.drop a).take (b - a))

end Reader

def isMeta (c : Char) : Bool := "\\.+*?()|[]\x7b\x7d^$#&-~".toList.contains c

def isEscapeable (c : Char) : Bool :=
  isMeta c || (c.toNat < 128 && !c.isAlphanum && c != '<' && c != '>')

def isHex (c : Char) : Bool := c.isDigit || ('a' ≤ c && c ≤ 'f') || ('A' ≤ c && c ≤ 'F')

def hexValue (s : List Char) : Nat :=
  s.foldl (fun n c => n * 16 +
    (if c.isDigit then c.toNat - 48 else if c ≤ 'F' then c.toNat - 55 else c.toNat - 87)) 0

def isScalar (n : Nat) : Bool := n < 0xD800 || (0xDFFF < n && n ≤ 0x10FFFF)

def isCaptureChar (c : Char) (first : Bool) : Bool :=
  if first then c == '_' || Unicode.isAlphabetic c
  else c == '_' || c == '.' || c == '[' || c == ']' || Unicode.isAlphabetic c ||
    [8, 9, 10].contains (Unicode.category c)

open Reader

def readHexDigits (r : Reader) (count : Nat) : Except Error (Char × Reader) :=
  let start := r.pos
  let rec go : Nat → Nat → Reader → List Char → Except Error (List Char × Reader)
    | 0, _, r, acc => .ok (acc.reverse, r)
    | fuel + 1, i, r, acc =>
      if i == count then .ok (acc.reverse, r)
      else
        let (ok, r) := if i > 0 then r.bumpAndSpace else (true, r)
        if !ok then fail .escapeUnexpectedEof r.here
        else if !isHex r.cur then fail .escapeHexInvalidDigit r.spanChar
        else go fuel (i + 1) r (r.cur :: acc)
  match go (count + 1) 0 r [] with
  | .error e => .error e
  | .ok (digits, r) =>
    let (_, r) := r.bumpAndSpace
    let n := hexValue digits
    if isScalar n then .ok (Char.ofNat n, r) else fail .escapeHexInvalid ⟨start, r.pos⟩

def readHexBrace (r : Reader) : Except Error (Char × Reader) :=
  let bracePos := r.pos
  let start := r.pos + 1
  let rec go : Nat → Reader → List Char → Except Error (List Char × Reader)
    | 0, r, acc => .ok (acc.reverse, r)
    | fuel + 1, r, acc =>
      let (ok, r) := r.bumpAndSpace
      if !ok || r.cur == '\x7d' then .ok (acc.reverse, r)
      else if !isHex r.cur then fail .escapeHexInvalidDigit r.spanChar
      else go fuel r (r.cur :: acc)
  match go (r.pat.size + 1) r [] with
  | .error e => .error e
  | .ok (digits, r) =>
    if r.isEof then fail .escapeUnexpectedEof ⟨bracePos, r.pos⟩
    else
      let stop := r.pos
      let (_, r) := r.bumpAndSpace
      if digits.isEmpty then fail .escapeHexEmpty ⟨bracePos, r.pos⟩
      else
        let n := hexValue digits
        if isScalar n then .ok (Char.ofNat n, r)
        else fail .escapeHexInvalid ⟨start, stop⟩

def readUnicodeClass (r : Reader) (start : Nat) : Except Error (Primitive × Reader) :=
  let negated := r.cur == 'P'
  let (ok, r) := r.bumpAndSpace
  if !ok then fail .escapeUnexpectedEof r.here
  else if r.cur == '\x7b' then
    let rec go : Nat → Reader → List Char → List Char × Reader
      | 0, r, acc => (acc.reverse, r)
      | fuel + 1, r, acc =>
        let (ok, r) := r.bumpAndSpace
        if !ok || r.cur == '\x7d' then (acc.reverse, r) else go fuel r (r.cur :: acc)
    let (name, r) := go (r.pat.size + 1) r []
    if r.isEof then fail .escapeUnexpectedEof r.here
    else
      let r := r.bump
      let text := String.ofList name
      let query :=
        match (text.splitOn "!=") with
        | n :: v :: rest => UnicodeQuery.namedValue true n ("!=".intercalate (v :: rest))
        | _ =>
          match name.idxOf? ':' with
          | some i => .namedValue false (String.ofList (name.take i)) (String.ofList (name.drop (i + 1)))
          | none =>
            match name.idxOf? '=' with
            | some i =>
              .namedValue false (String.ofList (name.take i)) (String.ofList (name.drop (i + 1)))
            | none => .named text
      .ok (.unicode query negated ⟨start, r.pos⟩, r)
  else if r.cur == '\\' then fail .unicodeClassInvalid r.spanChar
  else
    let c := r.cur
    let (_, r) := r.bumpAndSpace
    .ok (.unicode (.oneLetter c) negated ⟨start, r.pos⟩, r)

/-- Reads `{start}`, `{end}`, `{start-half}` or `{end-half}` after `\b`; gives nothing back, and
leaves the reader where it was, when no letter follows the brace. -/
def readSpecialBoundary (r : Reader) (wbStart : Nat) : Except Error (Option (Look × Reader)) :=
  let isValid (c : Char) : Bool := c.isAlpha || c == '-'
  let start := r.pos
  let (ok, r1) := r.bumpAndSpace
  if !ok then fail .specialWordOrRepetitionUnexpectedEof ⟨wbStart, r1.pos⟩
  else if !isValid r1.cur then .ok none
  else
    let startContents := r1.pos
    let rec go : Nat → Reader → List Char → List Char × Reader
      | 0, r, acc => (acc.reverse, r)
      | fuel + 1, r, acc =>
        if !r.isEof && isValid r.cur then go fuel (r.bumpAndSpace).2 (r.cur :: acc) else (acc.reverse, r)
    let (word, r2) := go (r.pat.size + 1) r1 []
    if r2.isEof || r2.cur != '\x7d' then fail .specialWordBoundaryUnclosed ⟨start, r2.pos⟩
    else
      let stop := r2.pos
      let r3 := r2.bump
      match String.ofList word with
      | "start" => .ok (some (.wordStart, r3))
      | "end" => .ok (some (.wordEnd, r3))
      | "start-half" => .ok (some (.wordStartHalf, r3))
      | "end-half" => .ok (some (.wordEndHalf, r3))
      | _ => fail .specialWordBoundaryUnrecognized ⟨startContents, stop⟩

def readEscape (r : Reader) : Except Error (Primitive × Reader) :=
  let start := r.pos
  let r := r.bump
  if r.isEof then fail .escapeUnexpectedEof ⟨start, r.pos⟩
  else
    let c := r.cur
    if c.isDigit then fail .unsupportedBackreference ⟨start, r.pos + 1⟩
    else if c == 'x' || c == 'u' || c == 'U' then
      let count := if c == 'x' then 2 else if c == 'u' then 4 else 8
      let (ok, r) := r.bumpAndSpace
      if !ok then fail .escapeUnexpectedEof r.here
      else
        let res := if r.cur == '\x7b' then readHexBrace r else readHexDigits r count
        res.map fun (ch, r) => (.lit ch ⟨start, r.pos⟩, r)
    else if c == 'p' || c == 'P' then readUnicodeClass r start
    else if "dswDSW".toList.contains c then
      let kind := if c == 'd' || c == 'D' then PerlKind.digit
        else if c == 's' || c == 'S' then .space else .word
      let r := r.bump
      .ok (.perl kind c.isUpper ⟨start, r.pos⟩, r)
    else
      let r := r.bump
      let span : Span := ⟨start, r.pos⟩
      if isEscapeable c then .ok (.lit c span, r)
      else
        match c with
        | 'a' => .ok (.lit '\x07' span, r)
        | 'f' => .ok (.lit '\x0c' span, r)
        | 't' => .ok (.lit '\t' span, r)
        | 'n' => .ok (.lit '\n' span, r)
        | 'r' => .ok (.lit '\r' span, r)
        | 'v' => .ok (.lit '\x0b' span, r)
        | 'A' => .ok (.look .startText span, r)
        | 'z' => .ok (.look .endText span, r)
        | 'b' =>
          if !r.isEof && r.cur == '\x7b' then
            match readSpecialBoundary r start with
            | .ok (some (k, r')) => .ok (.look k ⟨start, r'.pos⟩, r')
            | .ok none => .ok (.look .wordBoundary span, r)
            | .error e => .error e
          else .ok (.look .wordBoundary span, r)
        | 'B' => .ok (.look .notWordBoundary span, r)
        | '<' => .ok (.look .wordStart span, r)
        | '>' => .ok (.look .wordEnd span, r)
        | _ => fail .escapeUnrecognized span

def readPrimitive (r : Reader) : Except Error (Primitive × Reader) :=
  match r.cur with
  | '\\' => readEscape r
  | '.' => .ok (.dot r.spanChar, r.bump)
  | '^' => .ok (.look .startLine r.spanChar, r.bump)
  | '$' => .ok (.look .endLine r.spanChar, r.bump)
  | c => .ok (.lit c r.spanChar, r.bump)

def asciiNames : List String :=
  ["alnum", "alpha", "ascii", "blank", "cntrl", "digit", "graph", "lower", "print", "punct",
   "space", "upper", "word", "xdigit"]

def readAsciiClass (r : Reader) : Option (ClassItem × Reader) :=
  let r1 := r.bump
  if r1.isEof || r1.cur != ':' then none
  else
    let r2 := r1.bump
    if r2.isEof then none
    else
      let (negated, r3) := if r2.cur == '^' then (true, r2.bump) else (false, r2)
      if negated && r3.isEof then none
      else
        let nameStart := r3.pos
        let rest := r3.pat.toList.drop nameStart
        match rest.idxOf? ':' with
        | none => none
        | some k =>
          let name := String.ofList (rest.take k)
          let r4 : Reader := { r3 with pos := nameStart + k }
          match r4.bumpIf ":]" with
          | none => none
          | some r5 => if asciiNames.contains name then some (.ascii name negated, r5) else none

/-- What the class reader keeps for an enclosing level: an open bracket (the items of the
enclosing union, negation, where the bracket starts and where its opening ends) or the left side
of a pending operation. -/
inductive ClassFrame where
  | opened (parent : List ClassItem) (negated : Bool) (start openEnd : Nat)
  | op (k : SetOp) (lhs : ClassSet)

def unclosedClass (stack : List ClassFrame) : Error :=
  match stack.findSome? fun f => match f with
      | .opened _ _ s e => some (Span.mk s e)
      | .op _ _ => none with
  | some sp => ⟨.classUnclosed, sp, none⟩
  | none => ⟨.classUnclosed, ⟨0, 0⟩, none⟩

def popClassOp (stack : List ClassFrame) (rhs : ClassSet) : ClassSet × List ClassFrame :=
  match stack with
  | .op k lhs :: rest => (.op k lhs rhs, rest)
  | _ => (rhs, stack)

def readClassOpen (r : Reader) : Except Error (Bool × Nat × List ClassItem × Reader) :=
  let start := r.pos
  let (ok, r) := r.bumpAndSpace
  if !ok then fail .classUnclosed ⟨start, r.pos⟩
  else
    let step : Except Error (Bool × Reader) :=
      if r.cur == '^' then
        let (ok, r) := r.bumpAndSpace
        if !ok then fail .classUnclosed ⟨start, r.pos⟩ else .ok (true, r)
      else .ok (false, r)
    match step with
    | .error e => .error e
    | .ok (negated, r) =>
      let rec dashes : Nat → Reader → List ClassItem → Except Error (List ClassItem × Reader)
        | 0, r, acc => .ok (acc, r)
        | fuel + 1, r, acc =>
          if r.cur == '-' then
            let (ok, r') := r.bumpAndSpace
            if !ok then fail .classUnclosed ⟨start, start⟩ else dashes fuel r' (.lit '-' :: acc)
          else .ok (acc, r)
      match dashes (r.pat.size + 1) r [] with
      | .error e => .error e
      | .ok (items, r) =>
        if items.isEmpty && r.cur == ']' then
          let (ok, r') := r.bumpAndSpace
          if !ok then fail .classUnclosed ⟨start, r'.pos⟩ else .ok (negated, start, [.lit ']'], r')
        else .ok (negated, start, items, r)

def readClassRange (r : Reader) (stack : List ClassFrame) : Except Error (ClassItem × Reader) := do
  let (p1, r) ← if r.cur == '\\' then readEscape r else .ok (.lit r.cur r.spanChar, r.bump)
  let r := r.bumpSpace
  if r.isEof then .error (unclosedClass stack)
  else if r.cur != '-' || r.peekSpace == some ']' || r.peekSpace == some '-' then
    let item ← p1.toItem
    .ok (item, r)
  else
    let (ok, r) := r.bumpAndSpace
    if !ok then .error (unclosedClass stack)
    else
      let (p2, r) ← if r.cur == '\\' then readEscape r else .ok (.lit r.cur r.spanChar, r.bump)
      let lo ← p1.toRangeEnd
      let hi ← p2.toRangeEnd
      if hi < lo then fail .classRangeInvalid ⟨p1.span.start, p2.span.stop⟩
      else .ok (.range lo hi, r)

def readClass (r0 : Reader) : Except Error (Bool × ClassSet × Span × Reader) :=
  let rec go : Nat → Reader → List ClassItem → List ClassFrame →
      Except Error (Bool × ClassSet × Span × Reader)
    | 0, _, _, stack => .error (unclosedClass stack)
    | fuel + 1, r, union, stack =>
      let r := r.bumpSpace
      if r.isEof then .error (unclosedClass stack)
      else
        let openNested (r : Reader) : Except Error (Bool × ClassSet × Span × Reader) :=
          match readClassOpen r with
          | .error e => .error e
          | .ok (negated, start, items, r') =>
            go fuel r' items (.opened union negated start r'.pos :: stack)
        match r.cur with
        | '[' =>
          if stack.isEmpty then openNested r
          else
            match readAsciiClass r with
            | some (item, r') => go fuel r' (item :: union) stack
            | none => openNested r
        | ']' =>
          let (set, stack) := popClassOp stack (.items union.reverse)
          match stack with
          | .opened parent negated start _ :: rest =>
            let r := r.bump
            if rest.isEmpty then .ok (negated, set, ⟨start, r.pos⟩, r)
            else go fuel r (.bracket negated set :: parent) rest
          | _ => .error (unclosedClass stack)
        | c =>
          let pending : Option SetOp :=
            if c == '&' && r.peek == some '&' then some .intersection
            else if c == '-' && r.peek == some '-' then some .difference
            else if c == '~' && r.peek == some '~' then some .symmetricDifference
            else none
          match pending with
          | some k =>
            let (lhs, stack) := popClassOp stack (.items union.reverse)
            go fuel { r with pos := r.pos + 2 } [] (.op k lhs :: stack)
          | none =>
            match readClassRange r stack with
            | .error e => .error e
            | .ok (item, r') => go fuel r' (item :: union) stack
  go (2 * r0.pat.size + 2) r0 [] []

def readDecimal (r : Reader) : Except ErrorKind Nat × Span × Reader :=
  let skipBlank : Nat → Reader → Reader := fun fuel r0 =>
    (List.range fuel).foldl (fun r _ => if !r.isEof && isSpace r.cur then r.bump else r) r0
  let r := skipBlank (r.pat.size + 1) r
  let start := r.pos
  let rec digits : Nat → Reader → List Char → List Char × Reader
    | 0, r, acc => (acc.reverse, r)
    | fuel + 1, r, acc =>
      if !r.isEof && r.cur.isDigit then digits fuel (r.bumpAndSpace).2 (r.cur :: acc)
      else (acc.reverse, r)
  let (ds, r) := digits (r.pat.size + 1) r []
  let span : Span := ⟨start, r.pos⟩
  let rec blanks : Nat → Reader → Reader
    | 0, r => r
    | fuel + 1, r => if !r.isEof && isSpace r.cur then blanks fuel (r.bumpAndSpace).2 else r
  let r := blanks (r.pat.size + 1) r
  if ds.isEmpty then (.error .decimalEmpty, span, r)
  else
    let n := ds.foldl (fun n c => n * 10 + (c.toNat - 48)) 0
    if n < Nat.pow 2 32 then (.ok n, span, r) else (.error .decimalInvalid, span, r)

def flagState (items : List FlagItem) (c : Char) : Option Bool :=
  (items.foldl (fun (acc : Bool × Option Bool) it =>
    match it with
    | .negation => (true, acc.2)
    | .flag f => if f == c then (acc.1, some !acc.1) else acc) (false, none)).2

def readFlags (r : Reader) : Except Error (List FlagItem × Reader) :=
  let rec go : Nat → Reader → List (FlagItem × Span) → Option Span →
      Except Error (List FlagItem × Reader)
    | 0, r, items, _ => .ok (items.reverse.map (·.1), r)
    | fuel + 1, r, items, lastNeg =>
      if r.cur == ':' || r.cur == ')' then
        match lastNeg with
        | some sp => fail .flagDanglingNegation sp
        | none => .ok (items.reverse.map (·.1), r)
      else
        let c := r.cur
        let item : Except Error FlagItem :=
          if c == '-' then .ok .negation
          else if "imsUuRx".toList.contains c then .ok (.flag c)
          else fail .flagUnrecognized r.spanChar
        match item with
        | .error e => .error e
        | .ok it =>
          match items.find? (·.1 == it) with
          | some (_, orig) =>
            .error ⟨if it == .negation then .flagRepeatedNegation else .flagDuplicate,
              r.spanChar, some orig⟩
          | none =>
            let items := (it, r.spanChar) :: items
            let lastNeg := if it == .negation then some r.spanChar else none
            let r := r.bump
            if r.isEof then fail .flagUnexpectedEof r.here else go fuel r items lastNeg
  go (r.pat.size + 1) r [] none

def readCaptureName (r : Reader) : Except Error Reader :=
  if r.isEof then fail .groupNameUnexpectedEof r.here
  else
    let start := r.pos
    let rec go : Nat → Reader → Except Error Reader
      | 0, r => .ok r
      | fuel + 1, r =>
        if r.cur == '>' then .ok r
        else if !isCaptureChar r.cur (r.pos == start) then fail .groupNameInvalid r.spanChar
        else
          let r := r.bump
          if r.isEof then .ok r else go fuel r
    match go (r.pat.size + 1) r with
    | .error e => .error e
    | .ok r =>
      let stop := r.pos
      if r.isEof then fail .groupNameUnexpectedEof r.here
      else
        let r := r.bump
        let name := r.slice start stop
        if name.isEmpty then fail .groupNameEmpty ⟨start, start⟩
        else
          match r.names.lookup name with
          | some orig => .error ⟨.groupNameDuplicate, ⟨start, stop⟩, some orig⟩
          | none => .ok { r with names := (name, ⟨start, stop⟩) :: r.names }

/-- What an opening parenthesis starts: flags for the rest of the group, or a group with its
own flags (for `(?flags:...)`) and the span of its parenthesis. -/
inductive Opening where
  | setFlags (items : List FlagItem)
  | group (flags : Option (List FlagItem)) (openSpan : Span)

def readGroup (r : Reader) : Except Error (Opening × Reader) :=
  let openSpan := r.spanChar
  let r := (r.bump).bumpSpace
  let look := [("?=" : String), "?!", "?<=", "?<!"].findSome? r.bumpIf
  match look with
  | some r' => fail .unsupportedLookAround ⟨openSpan.start, r'.pos⟩
  | none =>
    let inner := r.here
    match (r.bumpIf "?P<").or (r.bumpIf "?<") with
    | some r =>
      (readCaptureName { r with captures := r.captures + 1 }).map fun r => (.group none openSpan, r)
    | none =>
      match r.bumpIf "?" with
      | some r =>
        if r.isEof then fail .groupUnclosed openSpan
        else
          match readFlags r with
          | .error e => .error e
          | .ok (items, r) =>
            let closing := r.cur
            let r := r.bump
            if closing == ')' then
              if items.isEmpty then fail .repetitionMissing inner
              else .ok (.setFlags items, r)
            else .ok (.group (some items) openSpan, r)
      | none => .ok (.group none openSpan, { r with captures := r.captures + 1 })

/-- What the reader keeps for an enclosing level of the pattern: an open group (the items before
it, its flags, its parenthesis and the blank handling outside it) or the finished branches of an
alternation. -/
inductive GroupFrame where
  | group (concat : List Ast) (flags : Option (List FlagItem)) (openSpan : Span) (ignoreSpace : Bool)
  | alternation (branches : List Ast)

def concatAst (rev : List Ast) : Ast :=
  match rev with
  | [] => .empty
  | [a] => a
  | _ => .concat rev.reverse

def readCounted (r : Reader) (last : Ast) : Except Error (Ast × Reader) :=
  let start := r.pos
  let (ok, r) := r.bumpAndSpace
  if !ok then fail .repetitionCountUnclosed ⟨start, r.pos⟩
  else
    let (first, firstSpan, r) := readDecimal r
    let specialize (k : ErrorKind) : ErrorKind :=
      if k == .decimalEmpty then .repetitionCountDecimalEmpty else k
    if r.isEof then fail .repetitionCountUnclosed ⟨start, r.pos⟩
    else
      let range : Except Error ((Nat × Option Nat) × Reader) :=
        if r.cur == ',' then
          let (ok, r) := r.bumpAndSpace
          if !ok then fail .repetitionCountUnclosed ⟨start, r.pos⟩
          else if r.cur != '\x7d' then
            match first with
            | .error k => fail (specialize k) firstSpan
            | .ok lo =>
              let (second, secondSpan, r) := readDecimal r
              match second with
              | .error k => fail (specialize k) secondSpan
              | .ok hi => .ok ((lo, some hi), r)
          else
            match first with
            | .error k => fail (specialize k) firstSpan
            | .ok lo => .ok ((lo, none), r)
        else
          match first with
          | .error k => fail (specialize k) firstSpan
          | .ok n => .ok ((n, some n), r)
      match range with
      | .error e => .error e
      | .ok ((lo, hi), r) =>
        if r.isEof || r.cur != '\x7d' then fail .repetitionCountUnclosed ⟨start, r.pos⟩
        else
          let (ok, r) := r.bumpAndSpace
          let r := if ok && r.cur == '?' then r.bump else r
          match hi with
          | some h => if h < lo then fail .repetitionCountInvalid ⟨start, r.pos⟩
            else .ok (.rep last lo hi, r)
          | none => .ok (.rep last lo hi, r)

def repeatable : Ast → Bool
  | .empty | .flags _ => false
  | _ => true

def readPattern (pat : String) : Except Error Ast :=
  let chars := pat.toList.toArray
  let rec go : Nat → Reader → List Ast → List GroupFrame → Except Error Ast
    | 0, _, _, _ => fail .groupUnclosed ⟨0, 0⟩
    | fuel + 1, r, concat, stack =>
      let r := r.bumpSpace
      if r.isEof then
        match stack with
        | [] => .ok (concatAst concat)
        | [.alternation bs] => .ok (.alt (concatAst concat :: bs).reverse)
        | .alternation _ :: .group _ _ sp _ :: _ => fail .groupUnclosed sp
        | .group _ _ sp _ :: _ => fail .groupUnclosed sp
        | .alternation bs :: _ => .ok (.alt (concatAst concat :: bs).reverse)
      else
        match r.cur with
        | '(' =>
          match readGroup r with
          | .error e => .error e
          | .ok (.setFlags items, r) =>
            let r := match flagState items 'x' with
              | some v => { r with ignoreSpace := v }
              | none => r
            go fuel r (.flags items :: concat) stack
          | .ok (.group flags sp, r) =>
            let outer := r.ignoreSpace
            let inner := ((flags.bind fun fs => flagState fs 'x')).getD outer
            go fuel { r with ignoreSpace := inner } [] (.group concat flags sp outer :: stack)
        | ')' =>
          let closed : Option (List Ast × Option (List FlagItem) × Bool × Ast × List GroupFrame) :=
            match stack with
            | .group prior flags _ ws :: rest => some (prior, flags, ws, concatAst concat, rest)
            | .alternation bs :: .group prior flags _ ws :: rest =>
              some (prior, flags, ws, .alt (concatAst concat :: bs).reverse, rest)
            | _ => none
          match closed with
          | none => fail .groupUnopened r.spanChar
          | some (prior, flags, ws, body, rest) =>
            go fuel { r.bump with ignoreSpace := ws } (.group flags body :: prior) rest
        | '|' =>
          let stack := match stack with
            | .alternation bs :: rest => .alternation (concatAst concat :: bs) :: rest
            | _ => .alternation [concatAst concat] :: stack
          go fuel r.bump [] stack
        | '[' =>
          match readClass r with
          | .error e => .error e
          | .ok (negated, set, span, r) => go fuel r (.bracket negated set span :: concat) stack
        | '?' | '*' | '+' =>
          let (lo, hi) : Nat × Option Nat :=
            if r.cur == '?' then (0, some 1) else if r.cur == '*' then (0, none) else (1, none)
          match concat with
          | last :: prior =>
            if repeatable last then
              let r := r.bump
              let r := if !r.isEof && r.cur == '?' then r.bump else r
              go fuel r (.rep last lo hi :: prior) stack
            else fail .repetitionMissing r.here
          | [] => fail .repetitionMissing r.here
        | '\x7b' =>
          match concat with
          | last :: prior =>
            if repeatable last then
              match readCounted r last with
              | .error e => .error e
              | .ok (a, r) => go fuel r (a :: prior) stack
            else fail .repetitionMissing r.here
          | [] => fail .repetitionMissing r.here
        | _ =>
          match readPrimitive r with
          | .error e => .error e
          | .ok (p, r) => go fuel r (p.toAst :: concat) stack
  go (2 * chars.size + 2) ⟨chars, 0, false, 0, []⟩ [] []

end FieldRules.Regex
