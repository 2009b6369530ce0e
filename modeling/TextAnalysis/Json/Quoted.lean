import TextAnalysis.Error
import TextAnalysis.Text.Quoted
import TextAnalysis.Text.Span

/-!
# JSON strings

How a text is written between double quotes in JSON, and how it is read. The reader goes through the
characters one at a time, so that of several faults the first one in the text is reported.
-/

namespace TextAnalysis.Json

/-- The escapes of one letter: the letter and the character that it stands for. -/
def letterEscapes : List (Char × Char) :=
  [('"', '"'), ('\\', '\\'), ('/', '/'), ('b', '\x08'), ('f', '\x0c'), ('n', '\n'), ('r', '\r'),
   ('t', '\t')]

/-- A character as it is written between double quotes. -/
def writeChar (c : Char) : List Char :=
  match c with
  | '"' => ['\\', '"']
  | '\\' => ['\\', '\\']
  | '\x08' => ['\\', 'b']
  | '\x0c' => ['\\', 'f']
  | '\n' => ['\\', 'n']
  | '\r' => ['\\', 'r']
  | '\t' => ['\\', 't']
  | c =>
    if c.toNat < 0x20 then
      ['\\', 'u', '0', '0', Nat.digitChar (c.toNat / 16), Nat.digitChar (c.toNat % 16)]
    else [c]

/-- A text between double quotes. -/
def writeString (s : String) : List Char :=
  '"' :: s.toList.flatMap writeChar ++ ['"']

/-- Where the reader of a string stands. -/
inductive Spot where
  /-- Between two characters of the string. -/
  | plain
  /-- After a backslash. -/
  | escape
  /-- Among four hexadecimal digits, of which `left` are still to come; they may complete the pair of
  units that begins with `high`. -/
  | digits (left value : Nat) (high : Option Nat)
  /-- After the first unit of a pair, where a backslash must follow. -/
  | betweenUnits (high : Nat)
  /-- After that backslash, where the letter `u` must follow. -/
  | secondUnit (high : Nat)

/-- The value of a hexadecimal digit. -/
def hexValue? (c : Char) : Option Nat :=
  if c.isDigit then some (c.toNat - 48)
  else if 'a' ≤ c ∧ c ≤ 'f' then some (c.toNat - 87)
  else if 'A' ≤ c ∧ c ≤ 'F' then some (c.toNat - 55)
  else none

/-- Whether a unit is the first of a pair. -/
def isHighUnit (n : Nat) : Bool := 0xD800 ≤ n && n ≤ 0xDBFF

/-- Whether a unit is the second of a pair. -/
def isLowUnit (n : Nat) : Bool := 0xDC00 ≤ n && n ≤ 0xDFFF

/-- Where the reader stands after the letter `u` of an escape, if four bytes follow it. -/
def openDigits (high : Option Nat) (cs : List Char) : Except JsonFault Spot :=
  if Text.byteLength (cs.take 4) < 4 then .error .incomplete else .ok (.digits 4 0 high)

/-- What four digits with the value `n` stand for, and where the reader stands after them. A unit of a
pair stands for nothing on its own. -/
def closeDigits (high : Option Nat) (n : Nat) : Except JsonFault (Option Char × Spot) :=
  match high with
  | none =>
    if isLowUnit n then .error .malformed
    else if isHighUnit n then .ok (none, .betweenUnits n)
    else .ok (some (Char.ofNat n), .plain)
  | some h =>
    if isLowUnit n then
      .ok (some (Char.ofNat (0x10000 + 0x400 * (h - 0xD800) + (n - 0xDC00))), .plain)
    else .error .malformed

/-- Read the rest of a string up to its closing quote. What was read so far comes last one first. Where
the string is only passed over, units of pairs may stand alone. -/
def readBody (decode : Bool) : Spot → List Char → List Char →
    Except JsonFault (List Char × List Char)
  | _, _, [] => .error .incomplete
  | .plain, read, c :: cs =>
    if c = '"' then .ok (read.reverse, cs)
    else if c = '\\' then readBody decode .escape read cs
    else if c.toNat < 0x20 then .error .malformed
    else readBody decode .plain (c :: read) cs
  | .escape, read, c :: cs =>
    if c = 'u' then
      match openDigits none cs with
      | .error fault => .error fault
      | .ok spot => readBody decode spot read cs
    else
      match letterEscapes.lookup c with
      | some d => readBody decode .plain (d :: read) cs
      | none => .error .malformed
  | .digits left value high, read, c :: cs =>
    match hexValue? c with
    | none => .error .malformed
    | some v =>
      if 1 < left then readBody decode (.digits (left - 1) (16 * value + v) high) read cs
      else if decode then
        match closeDigits high (16 * value + v) with
        | .error fault => .error fault
        | .ok (some d, spot) => readBody decode spot (d :: read) cs
        | .ok (none, spot) => readBody decode spot read cs
      else readBody decode .plain read cs
  | .betweenUnits high, read, c :: cs =>
    if c = '\\' then readBody decode (.secondUnit high) read cs else .error .malformed
  | .secondUnit high, read, c :: cs =>
    if c = 'u' then
      match openDigits (some high) cs with
      | .error fault => .error fault
      | .ok spot => readBody decode spot read cs
    else .error .malformed

/-- Read a string whose opening quote has been read. -/
def readString (cs : List Char) : Except JsonFault (String × List Char) :=
  match readBody true .plain [] cs with
  | .ok (read, rest) => .ok (String.ofList read, rest)
  | .error fault => .error fault

/-- Pass over a string whose opening quote has been read. -/
def skipString (cs : List Char) : Except JsonFault (List Char) :=
  match readBody false .plain [] cs with
  | .ok (_, rest) => .ok rest
  | .error fault => .error fault

end TextAnalysis.Json
