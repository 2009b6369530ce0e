import TextAnalysis.Text.GraphemeExtend
import TextAnalysis.Text.Printable

/-!
# Quoted text

How a text is shown inside a message: between double quotes, with quotes, backslashes and the common
control characters escaped, and any character that would not show on its own given by its code point.
-/

namespace TextAnalysis.Text

/-- The hexadecimal digits of a number, in small letters. -/
def hexDigits (n : Nat) : List Char := Nat.toDigits 16 n

/-- How a character is shown between double quotes. -/
def quoteChar (c : Char) : List Char :=
  match c with
  | '"' => ['\\', '"']
  | '\\' => ['\\', '\\']
  | '\n' => ['\\', 'n']
  | '\r' => ['\\', 'r']
  | '\t' => ['\\', 't']
  | '\x00' => ['\\', '0']
  | c =>
    if extendsPrevious c || !isPrintable c then
      ['\\', 'u', '\x7b'] ++ hexDigits c.toNat ++ ['\x7d']
    else [c]

/-- The text between double quotes. -/
def quoted (s : String) : String :=
  String.ofList ('"' :: s.toList.flatMap quoteChar ++ ['"'])

end TextAnalysis.Text
