import TextAnalysis.Error
import TextAnalysis.Text.Numeral

/-!
# JSON numbers

A number is read in three parts: an integer without leading zeros, a fraction and an exponent. A
number too large for a 64-bit float is malformed.
-/

namespace TextAnalysis.Json

/-- A number as it is written: its digits as one integer, the power of ten that goes with them, and
whether it is a plain integer. -/
structure Numeral where
  negative : Bool
  digits : Nat
  exponent : Int
  isInteger : Bool
deriving Repr, DecidableEq

/-- What is wrong when digits are missing before the given characters. Where a number is only passed
over, a text that ends there is malformed as well. -/
def missingDigits (decode : Bool) (cs : List Char) : JsonFault :=
  if decode ∧ cs = [] then .incomplete else .malformed

/-- The digits at the start and what follows them; there must be some. -/
def readDigits (decode : Bool) (cs : List Char) : Except JsonFault (List Char × List Char) :=
  match cs.takeWhile Char.isDigit with
  | [] => .error (missingDigits decode cs)
  | ds => .ok (ds, cs.dropWhile Char.isDigit)

/-- The integer part, which does not begin with a zero unless it is zero. -/
def readIntegerPart (decode : Bool) (cs : List Char) : Except JsonFault (List Char × List Char) :=
  match cs with
  | '0' :: rest =>
    if (rest.head?.map Char.isDigit).getD false then .error .malformed else .ok (['0'], rest)
  | cs => readDigits decode cs

/-- The digits of the fraction, if there is one. -/
def readFraction (decode : Bool) (cs : List Char) : Except JsonFault (List Char × List Char) :=
  match cs with
  | '.' :: rest => readDigits decode rest
  | cs => .ok ([], cs)

/-- The exponent, if there is one. -/
def readExponent (decode : Bool) (cs : List Char) : Except JsonFault (Option Int × List Char) :=
  let unsigned (negative : Bool) (cs : List Char) : Except JsonFault (Option Int × List Char) :=
    match readDigits decode cs with
    | .error fault => .error fault
    | .ok (ds, rest) =>
      let n : Int := (Text.digitsValue? 0 ds).getD 0
      .ok (some (if negative then -n else n), rest)
  match cs with
  | c :: rest =>
    if c = 'e' ∨ c = 'E' then
      match rest with
      | '+' :: rest => unsigned false rest
      | '-' :: rest => unsigned true rest
      | rest => unsigned false rest
    else .ok (none, cs)
  | [] => .ok (none, [])

/-- A number whose sign has been read. -/
def readNumeral (decode negative : Bool) (cs : List Char) :
    Except JsonFault (Numeral × List Char) :=
  match readIntegerPart decode cs with
  | .error fault => .error fault
  | .ok (whole, rest) =>
    match readFraction decode rest with
    | .error fault => .error fault
    | .ok (fraction, rest) =>
      match readExponent decode rest with
      | .error fault => .error fault
      | .ok (exponent, rest) =>
        .ok ({ negative
               digits := (Text.digitsValue? 0 (whole ++ fraction)).getD 0
               exponent := exponent.getD 0 - fraction.length
               isInteger := fraction = [] ∧ exponent = none }, rest)

/-- The least number that is rounded to infinity as a 64-bit float. -/
def floatLimit : Nat := Nat.pow 2 1024 - Nat.pow 2 970

/-- Whether a number has no finite 64-bit float near it. Only numbers of 309 digits and more can be
as large, and those of 311 digits are. -/
def Numeral.isTooLarge (n : Numeral) : Bool :=
  let size : Int := (Nat.toDigits 10 n.digits).length + n.exponent
  if n.digits = 0 ∨ size < 309 then false
  else if 310 < size then true
  else floatLimit * Nat.pow 10 (-n.exponent).toNat ≤ n.digits * Nat.pow 10 n.exponent.toNat

/-- Read a number whose sign has been read. -/
def readNumber (negative : Bool) (cs : List Char) : Except JsonFault (Numeral × List Char) :=
  match readNumeral true negative cs with
  | .error fault => .error fault
  | .ok (n, rest) => if n.isTooLarge then .error .malformed else .ok (n, rest)

/-- Pass over a number whose sign has been read. -/
def skipNumber (cs : List Char) : Except JsonFault (List Char) :=
  match readNumeral false false cs with
  | .error fault => .error fault
  | .ok (_, rest) => .ok rest

/-- The count that a number is, if it is one. -/
def Numeral.count? (n : Numeral) : Option Nat :=
  if n.isInteger ∧ !n.negative ∧ n.digits < Text.countLimit then some n.digits else none

end TextAnalysis.Json
