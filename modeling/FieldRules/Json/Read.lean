import FieldRules.Json.Value

namespace FieldRules.Json

/-- Why a JSON text is refused. -/
inductive ReadFault where
  | eofWhileParsingList
  | eofWhileParsingObject
  | eofWhileParsingString
  | eofWhileParsingValue
  | expectedColon
  | expectedListCommaOrEnd
  | expectedObjectCommaOrEnd
  | expectedSomeIdent
  | expectedSomeValue
  | invalidEscape
  | invalidNumber
  | numberOutOfRange
  | controlCharacterInString
  | keyMustBeAString
  | loneLeadingSurrogate
  | trailingComma
  | trailingCharacters
  | unexpectedEndOfHexEscape
  | recursionLimitExceeded
deriving BEq, Repr

def ReadFault.text : ReadFault → String
  | .eofWhileParsingList => "EOF while parsing a list"
  | .eofWhileParsingObject => "EOF while parsing an object"
  | .eofWhileParsingString => "EOF while parsing a string"
  | .eofWhileParsingValue => "EOF while parsing a value"
  | .expectedColon => "expected `:`"
  | .expectedListCommaOrEnd => "expected `,` or `]`"
  | .expectedObjectCommaOrEnd => "expected `,` or `\x7d`"
  | .expectedSomeIdent => "expected ident"
  | .expectedSomeValue => "expected value"
  | .invalidEscape => "invalid escape"
  | .invalidNumber => "invalid number"
  | .numberOutOfRange => "number out of range"
  | .controlCharacterInString =>
    "control character (\\u0000-\\u001F) found while parsing a string"
  | .keyMustBeAString => "key must be a string"
  | .loneLeadingSurrogate => "lone leading surrogate in hex escape"
  | .trailingComma => "trailing comma"
  | .trailingCharacters => "trailing characters"
  | .unexpectedEndOfHexEscape => "unexpected end of hex escape"
  | .recursionLimitExceeded => "recursion limit exceeded"

/-- A refused JSON text: the fault, and the line (from one) and byte column where it was
found. -/
structure ReadError where
  fault : ReadFault
  line : Nat
  column : Nat
deriving BEq, Repr

def ReadError.message (e : ReadError) : String :=
  e.fault.text ++ " at line " ++ Nat.repr e.line ++ " column " ++ Nat.repr e.column

/-- The unread bytes of the text and the position reached: line, column of the next byte
within its line, and bytes read so far. -/
structure Cursor where
  rest : List UInt8
  line : Nat
  column : Nat
  offset : Nat

namespace Cursor

def start (text : String) : Cursor := ⟨text.toUTF8.toList, 1, 0, 0⟩

def peek (c : Cursor) : Option UInt8 := c.rest.head?

def advance (c : Cursor) : Cursor :=
  match c.rest with
  | [] => c
  | b :: r => if b == 10 then ⟨r, c.line + 1, 0, c.offset + 1⟩ else ⟨r, c.line, c.column + 1, c.offset + 1⟩

def fail (c : Cursor) (f : ReadFault) : ReadError := ⟨f, c.line, c.column⟩

def failAhead (c : Cursor) (f : ReadFault) : ReadError :=
  match c.rest with
  | [] => ⟨f, c.line, c.column⟩
  | b :: _ => if b == 10 then ⟨f, c.line + 1, 0⟩ else ⟨f, c.line, c.column + 1⟩

def skipBlanks (c : Cursor) : Cursor :=
  let n := (c.rest.takeWhile fun b => b == 32 || b == 9 || b == 10 || b == 13).length
  (List.range n).foldl (fun c _ => c.advance) c

end Cursor

def isDigitByte (b : UInt8) : Bool := 48 ≤ b && b ≤ 57

def digitOf (b : UInt8) : Nat := b.toNat - 48

def u64Max : Nat := Nat.pow 2 64 - 1

def i32Max : Nat := Nat.pow 2 31 - 1

def powerOfTen (k : Nat) : Float := Binary64.ofDecimal false 1 k

/-- `sig * 10 ^ exp` as a double: the significand is rounded once, then multiplied or divided
by one power of ten (by `1e308` first, as often as needed, for smaller exponents). A product
that overflows is refused. -/
def scaleSignificand (pos : Bool) (sig : Nat) (exp : Int) (c : Cursor) : Except ReadError Float :=
  let rec go (f : Float) (exp : Int) : Nat → Except ReadError Float
    | 0 => .ok f
    | fuel + 1 =>
      if exp.natAbs ≤ 308 then
        if 0 ≤ exp then
          let g := f * powerOfTen exp.toNat
          if g.isInf then .error (c.fail .numberOutOfRange) else .ok g
        else .ok (f / powerOfTen exp.natAbs)
      else if f == 0 then .ok f
      else if 0 ≤ exp then .error (c.fail .numberOutOfRange)
      else go (f / powerOfTen 308) (exp + 308) fuel
  (go (Binary64.ofNat sig) exp (exp.natAbs / 308 + 2)).map fun f => if pos then f else -f

def integerNum (pos : Bool) (sig : Nat) : Num :=
  if pos then .nat sig
  else if sig == 0 then .float (-0.0)
  else if sig ≤ Nat.pow 2 63 then .neg (-(sig : Int))
  else .float (-(Binary64.ofNat sig))

/-- After an exponent whose digits overflow: a positive exponent on a non-zero significand is
refused, otherwise the rest of the digits are skipped and the value is zero. -/
def exponentOverflow (pos zeroSig positiveExp : Bool) (c : Cursor) : Except ReadError (Float × Cursor) :=
  if !zeroSig && positiveExp then .error (c.fail .numberOutOfRange)
  else
    let n := (c.rest.takeWhile isDigitByte).length
    .ok ((if pos then 0.0 else -0.0), (List.range n).foldl (fun c _ => c.advance) c)

def readExponent (pos : Bool) (sig : Nat) (startExp : Int) (c : Cursor) :
    Except ReadError (Float × Cursor) :=
  let c := c.advance
  let (positiveExp, c) := match c.peek with
    | some 43 => (true, c.advance)
    | some 45 => (false, c.advance)
    | _ => (true, c)
  match c.peek with
  | none => .error (c.fail .eofWhileParsingValue)
  | some b =>
    let c := c.advance
    if !isDigitByte b then .error (c.fail .invalidNumber)
    else
      let rec digits (exp : Nat) (c : Cursor) : Nat → Except ReadError (Float × Cursor)
        | 0 => .error (c.fail .invalidNumber)
        | fuel + 1 =>
          match c.peek with
          | some d =>
            if isDigitByte d then
              let c := c.advance
              if exp * 10 + digitOf d > i32Max then exponentOverflow pos (sig == 0) positiveExp c
              else digits (exp * 10 + digitOf d) c fuel
            else finish positiveExp exp c
          | none => finish positiveExp exp c
      digits (digitOf b) c (c.rest.length + 1)
where
  finish (positiveExp : Bool) (exp : Nat) (c : Cursor) : Except ReadError (Float × Cursor) :=
    let total := if positiveExp then startExp + exp else startExp - exp
    (scaleSignificand pos sig total c).map (·, c)

def fractionOverflow (pos : Bool) (sig : Nat) (exp : Int) (c : Cursor) :
    Except ReadError (Float × Cursor) :=
  let n := (c.rest.takeWhile isDigitByte).length
  let c := (List.range n).foldl (fun c _ => c.advance) c
  match c.peek with
  | some 101 | some 69 => readExponent pos sig exp c
  | _ => (scaleSignificand pos sig exp c).map (·, c)

def readFraction (pos : Bool) (sig : Nat) (expBefore : Int) (c : Cursor) :
    Except ReadError (Float × Cursor) :=
  let c := c.advance
  let rec digits (sig : Nat) (after : Nat) (c : Cursor) : Nat → Except ReadError (Float × Cursor)
    | 0 => .error (c.fail .invalidNumber)
    | fuel + 1 =>
      match c.peek with
      | some d =>
        if isDigitByte d then
          if sig * 10 + digitOf d > u64Max then fractionOverflow pos sig (expBefore - after) c
          else digits (sig * 10 + digitOf d) (after + 1) c.advance fuel
        else finish sig after c
      | none => finish sig after c
  digits sig 0 c (c.rest.length + 1)
where
  finish (sig after : Nat) (c : Cursor) : Except ReadError (Float × Cursor) :=
    if after == 0 then
      match c.peek with
      | some _ => .error (c.failAhead .invalidNumber)
      | none => .error (c.failAhead .eofWhileParsingValue)
    else
      let exp := expBefore - after
      match c.peek with
      | some 101 | some 69 => readExponent pos sig exp c
      | _ => (scaleSignificand pos sig exp c).map (·, c)

def readLongInteger (pos : Bool) (sig : Nat) (c : Cursor) : Except ReadError (Float × Cursor) :=
  let n := (c.rest.takeWhile isDigitByte).length
  let c := (List.range n).foldl (fun c _ => c.advance) c
  match c.peek with
  | some 46 => readFraction pos sig n c
  | some 101 | some 69 => readExponent pos sig n c
  | _ => (scaleSignificand pos sig n c).map (·, c)

def readNumberTail (pos : Bool) (sig : Nat) (c : Cursor) : Except ReadError (Num × Cursor) :=
  match c.peek with
  | some 46 => (readFraction pos sig 0 c).map fun (f, c) => (.float f, c)
  | some 101 | some 69 => (readExponent pos sig 0 c).map fun (f, c) => (.float f, c)
  | _ => .ok (integerNum pos sig, c)

def readNumber (pos : Bool) (c : Cursor) : Except ReadError (Num × Cursor) :=
  match c.peek with
  | none => .error (c.fail .eofWhileParsingValue)
  | some b =>
    let c := c.advance
    if b == 48 then
      match c.peek with
      | some d => if isDigitByte d then .error (c.failAhead .invalidNumber) else readNumberTail pos 0 c
      | none => readNumberTail pos 0 c
    else if isDigitByte b then
      let rec digits (sig : Nat) (c : Cursor) : Nat → Except ReadError (Num × Cursor)
        | 0 => .error (c.fail .invalidNumber)
        | fuel + 1 =>
          match c.peek with
          | some d =>
            if isDigitByte d then
              if sig * 10 + digitOf d > u64Max then
                (readLongInteger pos sig c).map fun (f, c) => (.float f, c)
              else digits (sig * 10 + digitOf d) c.advance fuel
            else readNumberTail pos sig c
          | none => readNumberTail pos sig c
      digits (digitOf b) c (c.rest.length + 1)
    else .error (c.fail .invalidNumber)

def hexValue (bs : List UInt8) : Option Nat :=
  bs.foldl (fun acc b => acc.bind fun v =>
    if 48 ≤ b && b ≤ 57 then some (v * 16 + (b.toNat - 48))
    else if 97 ≤ b && b ≤ 102 then some (v * 16 + (b.toNat - 87))
    else if 65 ≤ b && b ≤ 70 then some (v * 16 + (b.toNat - 55))
    else none) (some 0)

def readHex4 (c : Cursor) : Except ReadError (Nat × Cursor) :=
  if c.rest.length < 4 then
    let c := (List.range c.rest.length).foldl (fun c _ => c.advance) c
    .error (c.fail .eofWhileParsingString)
  else
    let ds := c.rest.take 4
    let c := (List.range 4).foldl (fun c _ => c.advance) c
    match hexValue ds with
    | some v => .ok (v, c)
    | none => .error (c.fail .invalidEscape)

def utf8Bytes (n : Nat) : List UInt8 :=
  (String.singleton (Char.ofNat n)).toUTF8.toList

def readUnicodeEscape (c : Cursor) : Except ReadError (List UInt8 × Cursor) := do
  let (n, c) ← readHex4 c
  if 0xDC00 ≤ n && n ≤ 0xDFFF then throw (c.fail .loneLeadingSurrogate)
  if n < 0xD800 || n > 0xDBFF then return (utf8Bytes n, c)
  match c.peek with
  | none => throw (c.fail .eofWhileParsingString)
  | some b =>
    let c := c.advance
    if b != 92 then throw (c.fail .unexpectedEndOfHexEscape)
    match c.peek with
    | none => throw (c.fail .eofWhileParsingString)
    | some b =>
      let c := c.advance
      if b != 117 then throw (c.fail .unexpectedEndOfHexEscape)
      let (n₂, c) ← readHex4 c
      if n₂ < 0xDC00 || n₂ > 0xDFFF then throw (c.fail .loneLeadingSurrogate)
      return (utf8Bytes ((n - 0xD800) * 1024 + (n₂ - 0xDC00) + 0x10000), c)

def readEscape (c : Cursor) : Except ReadError (List UInt8 × Cursor) :=
  match c.peek with
  | none => .error (c.fail .eofWhileParsingString)
  | some b =>
    let c := c.advance
    match b with
    | 34 => .ok ([34], c)
    | 92 => .ok ([92], c)
    | 47 => .ok ([47], c)
    | 98 => .ok ([8], c)
    | 102 => .ok ([12], c)
    | 110 => .ok ([10], c)
    | 114 => .ok ([13], c)
    | 116 => .ok ([9], c)
    | 117 => readUnicodeEscape c
    | _ => .error (c.fail .invalidEscape)

def readString (c : Cursor) : Except ReadError (String × Cursor) :=
  let rec go (acc : Array UInt8) (c : Cursor) : Nat → Except ReadError (String × Cursor)
    | 0 => .error (c.fail .eofWhileParsingString)
    | fuel + 1 =>
      match c.peek with
      | none => .error (c.fail .eofWhileParsingString)
      | some b =>
        let c := c.advance
        if b == 34 then .ok ((String.fromUTF8? (ByteArray.mk acc)).getD "", c)
        else if b == 92 then
          match readEscape c with
          | .ok (bs, c) => go (acc ++ bs.toArray) c fuel
          | .error e => .error e
        else if b < 32 then .error (c.fail .controlCharacterInString)
        else go (acc.push b) c fuel
  go #[] c (c.rest.length + 1)

def readWord (word : List UInt8) (c : Cursor) : Except ReadError Cursor :=
  word.foldlM (fun c w =>
    match c.peek with
    | none => .error (c.fail .eofWhileParsingValue)
    | some b => if b == w then .ok c.advance else .error (c.advance.fail .expectedSomeIdent)) c

mutual
def readValue (depth : Nat) (c : Cursor) : Nat → Except ReadError (Json × Cursor)
  | 0 => .error (c.fail .recursionLimitExceeded)
  | fuel + 1 =>
    let c := c.skipBlanks
    match c.peek with
    | none => .error (c.failAhead .eofWhileParsingValue)
    | some 110 => (readWord [117, 108, 108] c.advance).map (.null, ·)
    | some 116 => (readWord [114, 117, 101] c.advance).map (.bool true, ·)
    | some 102 => (readWord [97, 108, 115, 101] c.advance).map (.bool false, ·)
    | some 45 => (readNumber false c.advance).map fun (n, c) => (.num n, c)
    | some 34 => (readString c.advance).map fun (s, c) => (.str s, c)
    | some 91 =>
      if depth ≤ 1 then .error (c.failAhead .recursionLimitExceeded)
      else (readItems (depth - 1) true [] c.advance fuel).map fun (xs, c) => (.arr xs, c)
    | some 123 =>
      if depth ≤ 1 then .error (c.failAhead .recursionLimitExceeded)
      else (readMembers (depth - 1) true [] c.advance fuel).map fun (fs, c) => (.obj fs, c)
    | some b =>
      if isDigitByte b then (readNumber true c).map fun (n, c) => (.num n, c)
      else .error (c.failAhead .expectedSomeValue)

def readItems (depth : Nat) (first : Bool) (acc : List Json) (c : Cursor) :
    Nat → Except ReadError (List Json × Cursor)
  | 0 => .error (c.fail .recursionLimitExceeded)
  | fuel + 1 =>
    let c := c.skipBlanks
    let next : Except ReadError Cursor :=
      match c.peek with
      | some 93 => .error (c.fail .trailingComma)
      | some 44 => if first then .ok c else .ok c.advance.skipBlanks
      | some _ => if first then .ok c else .error (c.failAhead .expectedListCommaOrEnd)
      | none => .error (c.failAhead .eofWhileParsingList)
    if c.peek == some 93 then .ok (acc.reverse, c.advance)
    else match next with
      | .error e => .error e
      | .ok c =>
        match c.peek with
        | some 93 => .error (c.failAhead .trailingComma)
        | some _ =>
          match readValue depth c fuel with
          | .ok (v, c) => readItems depth false (v :: acc) c fuel
          | .error e => .error e
        | none => .error (c.failAhead .eofWhileParsingValue)

def readMembers (depth : Nat) (first : Bool) (acc : List (String × Json)) (c : Cursor) :
    Nat → Except ReadError (List (String × Json) × Cursor)
  | 0 => .error (c.fail .recursionLimitExceeded)
  | fuel + 1 =>
    let c := c.skipBlanks
    let next : Except ReadError Cursor :=
      match c.peek with
      | some 125 => .error (c.fail .trailingComma)
      | some 44 => if first then .ok c else .ok c.advance.skipBlanks
      | some _ => if first then .ok c else .error (c.failAhead .expectedObjectCommaOrEnd)
      | none => .error (c.failAhead .eofWhileParsingObject)
    if c.peek == some 125 then .ok (acc, c.advance)
    else match next with
      | .error e => .error e
      | .ok c =>
        match c.peek with
        | some 34 =>
          match readString c.advance with
          | .error e => .error e
          | .ok (key, c) =>
            let c := c.skipBlanks
            match c.peek with
            | some 58 =>
              match readValue depth c.advance fuel with
              | .ok (v, c) => readMembers depth false (Assoc.insert acc key v) c fuel
              | .error e => .error e
            | some _ => .error (c.failAhead .expectedColon)
            | none => .error (c.failAhead .eofWhileParsingObject)
        | some 125 => .error (c.failAhead .trailingComma)
        | some _ => .error (c.failAhead .keyMustBeAString)
        | none => .error (c.failAhead .eofWhileParsingValue)
end

def budget (c : Cursor) : Nat := 4 * c.rest.length + 16

def read (text : String) : Except ReadError Json := do
  let c := Cursor.start text
  let (v, c) ← readValue 128 c (budget c)
  let c := c.skipBlanks
  if c.rest.isEmpty then return v else throw (c.failAhead .trailingCharacters)

/-- Reads the first JSON value of a stream of values, giving it with the number of bytes it
took, or `none` when the text holds only blanks. A value that does not end in a bracket, brace
or quote must be followed by a blank, a bracket, a brace, a quote, a comma, a colon or the end. -/
def readLeading (text : String) : Except ReadError (Option (Json × Nat)) := do
  let c := (Cursor.start text).skipBlanks
  match c.peek with
  | none => return none
  | some b =>
    let (v, c) ← readValue 128 c (budget c)
    if b == 91 || b == 34 || b == 123 then return some (v, c.offset)
    match c.peek with
    | none => return some (v, c.offset)
    | some n =>
      if [32, 10, 9, 13, 34, 91, 93, 123, 125, 44, 58].contains n then return some (v, c.offset)
      else throw (c.failAhead .trailingCharacters)

end FieldRules.Json
