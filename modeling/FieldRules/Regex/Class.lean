import FieldRules.Regex.Syntax
import FieldRules.Unicode.Category
import FieldRules.Unicode.Script
import FieldRules.Unicode.Binary
import FieldRules.Unicode.CaseFold

namespace FieldRules.Regex

/-- A name reduced for comparison: a leading `is` dropped, ASCII letters lowercased, blanks,
underscores and hyphens removed, and characters beyond ASCII dropped. -/
def normalizeName (s : String) : String :=
  let cs := s.toList
  let (isPrefix, rest) := match cs with
    | a :: b :: r => if (a == 'i' || a == 'I') && (b == 's' || b == 'S') then (true, r) else (false, cs)
    | _ => (false, cs)
  let kept := rest.filterMap fun c =>
    if c == ' ' || c == '_' || c == '-' then none
    else if 'A' ≤ c && c ≤ 'Z' then some (Char.ofNat (c.toNat + 32))
    else if c.toNat < 128 then some c
    else none
  if isPrefix && kept == ['c'] then "isc" else String.ofList kept

def binaryByName? (norm : String) : Option Unicode.Runs :=
  (Unicode.binaryProperties.find? fun (names, _) => names.any (normalizeName · == norm)).map (·.2)

def categoryByName? (norm : String) : Option (Char → Bool) :=
  if norm == "any" then some fun _ => true
  else if norm == "assigned" then some fun c => Unicode.category c != 29
  else if norm == "ascii" then some fun c => c.toNat < 128
  else
    (Unicode.categoryAliases.find? fun (names, _) => names.any (normalizeName · == norm)).map
      fun (_, cats) c => cats.contains (Unicode.category c)

def scriptByName? (norm : String) : Option (Char → Bool) :=
  (Unicode.scriptAliases.find? fun (names, _) => names.any (normalizeName · == norm)).map
    fun (_, i) c => Unicode.script c == i

/-- The characters of a Unicode class given by a name alone: a binary property (except for the
names `cf`, `sc` and `lc`, which are categories), else a category, else a script. -/
def namedClass (name : String) : Except ErrorKind (Char → Bool) :=
  let norm := normalizeName name
  let binary := if norm == "cf" || norm == "sc" || norm == "lc" then none else binaryByName? norm
  match binary with
  | some runs => .ok runs.contains
  | none =>
    match categoryByName? norm with
    | some p => .ok p
    | none =>
      match scriptByName? norm with
      | some p => .ok p
      | none => .error .propertyNotFound

def valuedClass (name value : String) : Except ErrorKind (Char → Bool) :=
  let prop := normalizeName name
  let norm := normalizeName value
  if prop == "gc" || prop == "generalcategory" then
    match categoryByName? norm with
    | some p => .ok p
    | none => .error .propertyValueNotFound
  else if prop == "sc" || prop == "script" || prop == "scx" || prop == "scriptextensions" then
    match scriptByName? norm with
    | some p => .ok p
    | none => .error .propertyValueNotFound
  else .error .propertyNotFound

def queryClass : UnicodeQuery → Except ErrorKind ((Char → Bool) × Bool)
  | .oneLetter c => (namedClass (String.singleton c)).map (·, false)
  | .named n => (namedClass n).map (·, false)
  | .namedValue differs n v => (valuedClass n v).map (·, differs)

def perlClass (unicode : Bool) : PerlKind → Char → Bool
  | .digit => fun c => if unicode then Unicode.category c == 8 else c.isDigit
  | .space => fun c =>
    if unicode then Text.isBlank c
    else c == ' ' || c == '\t' || c == '\n' || c == '\r' || c == '\x0b' || c == '\x0c'
  | .word => fun c => if unicode then Unicode.isWord c else c.isAlphanum || c == '_'

def asciiClass (name : String) (c : Char) : Bool :=
  let n := c.toNat
  match name with
  | "alnum" => c.isAlphanum
  | "alpha" => c.isAlpha
  | "ascii" => n < 128
  | "blank" => c == ' ' || c == '\t'
  | "cntrl" => n < 32 || n == 127
  | "digit" => c.isDigit
  | "graph" => 33 ≤ n && n ≤ 126
  | "lower" => c.isLower
  | "print" => 32 ≤ n && n ≤ 126
  | "punct" => (33 ≤ n && n ≤ 47) || (58 ≤ n && n ≤ 64) || (91 ≤ n && n ≤ 96) || (123 ≤ n && n ≤ 126)
  | "space" => c == ' ' || (9 ≤ n && n ≤ 13)
  | "upper" => c.isUpper
  | "word" => c.isAlphanum || c == '_'
  | "xdigit" => isHex c
  | _ => false

def foldClass (p : Char → Bool) (c : Char) : Bool := (Unicode.caseVariants c).any p

def foldAndNegate (ci negated : Bool) (p : Char → Bool) : Char → Bool :=
  let q := if ci then foldClass p else p
  if negated then fun c => !q c else q

end FieldRules.Regex
