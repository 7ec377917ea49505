import FieldRules.Unicode.Category
import FieldRules.Unicode.Property

namespace FieldRules.Text

def hexDigits (n : Nat) : List Char :=
  (Nat.toDigits 16 n)

def debugEscape (c : Char) : List Char :=
  match c with
  | '\t' => ['\\', 't']
  | '\r' => ['\\', 'r']
  | '\n' => ['\\', 'n']
  | '\\' => ['\\', '\\']
  | '"' => ['\\', '"']
  | _ =>
    if c.toNat == 0 then ['\\', '0']
    else if !Unicode.isGraphemeExtend c && Unicode.isPrintable c then [c]
    else ['\\', 'u', '\x7b'] ++ hexDigits c.toNat ++ ['\x7d']

def debugQuote (s : String) : String :=
  String.ofList ('"' :: s.toList.flatMap debugEscape ++ ['"'])

end FieldRules.Text
