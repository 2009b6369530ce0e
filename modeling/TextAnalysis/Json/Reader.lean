import TextAnalysis.Json.Number
import TextAnalysis.Json.Quoted

/-!
# Reading JSON

Readers for the values that are wanted. A reader takes the characters that are left and gives a value
and the characters after it, or the first fault. A value of another kind than the one wanted is a fault
once it has been read; a list or a record is one as soon as it begins.
-/

namespace TextAnalysis.Json

/-- A reader of values of type `α`. -/
abbrev Reader (α : Type) := List Char → Except JsonFault (α × List Char)

/-- Whether a character may stand between two parts of a JSON text. -/
def isSpace (c : Char) : Bool := c = ' ' || c = '\n' || c = '\t' || c = '\r'

/-- The characters after the spaces at the start. -/
def skipSpace (cs : List Char) : List Char := cs.dropWhile isSpace

/-- Read the rest of a literal. -/
def readLiteral : List Char → List Char → Except JsonFault (List Char)
  | [], cs => .ok cs
  | _ :: _, [] => .error .incomplete
  | l :: ls, c :: cs => if l = c then readLiteral ls cs else .error .malformed

/-- The fault of a value that is not wanted. A scalar is read to its end first. -/
def unsuitableValue (cs : List Char) : JsonFault :=
  let after {α : Type} (result : Except JsonFault α) : JsonFault :=
    match result with
    | .ok _ => .unsuitable
    | .error fault => fault
  match cs with
  | [] => .incomplete
  | 'n' :: rest => after (readLiteral ['u', 'l', 'l'] rest)
  | 't' :: rest => after (readLiteral ['r', 'u', 'e'] rest)
  | 'f' :: rest => after (readLiteral ['a', 'l', 's', 'e'] rest)
  | '"' :: rest => after (readString rest)
  | '-' :: rest => after (readNumber true rest)
  | '[' :: _ => .unsuitable
  | '\x7b' :: _ => .unsuitable
  | c :: rest => if c.isDigit then after (readNumber false (c :: rest)) else .malformed

/-- Read a string. -/
def readText : Reader String := fun cs =>
  match skipSpace cs with
  | '"' :: rest => readString rest
  | cs => .error (unsuitableValue cs)

/-- Read a truth value. -/
def readFlag : Reader Bool := fun cs =>
  match skipSpace cs with
  | 't' :: rest => (readLiteral ['r', 'u', 'e'] rest).map (true, ·)
  | 'f' :: rest => (readLiteral ['a', 'l', 's', 'e'] rest).map (false, ·)
  | cs => .error (unsuitableValue cs)

/-- Read the null value. -/
def readNull : Reader Unit := fun cs =>
  match skipSpace cs with
  | 'n' :: rest => (readLiteral ['u', 'l', 'l'] rest).map ((), ·)
  | cs => .error (unsuitableValue cs)

/-- Read a count. -/
def readCount : Reader Nat := fun cs =>
  match skipSpace cs with
  | c :: rest =>
    if c.isDigit then
      match readNumber false (c :: rest) with
      | .error fault => .error fault
      | .ok (n, rest) =>
        match n.count? with
        | some k => .ok (k, rest)
        | none => .error .unsuitable
    else .error (unsuitableValue (c :: rest))
  | [] => .error .incomplete

/-- Go to the next element of a list, if there is one. The characters after it begin with the element,
or with the bracket that closes the list. -/
def nextElement (isFirst : Bool) (cs : List Char) : Except JsonFault (Bool × List Char) :=
  match skipSpace cs with
  | [] => .error .incomplete
  | ']' :: rest => .ok (false, ']' :: rest)
  | c :: rest =>
    if isFirst then .ok (true, c :: rest)
    else if c = ',' then
      match skipSpace rest with
      | [] => .error .incomplete
      | ']' :: _ => .error .malformed
      | rest => .ok (true, rest)
    else .error .malformed

/-- Read the end of a list. -/
def closeList (cs : List Char) : Except JsonFault (List Char) :=
  match skipSpace cs with
  | ']' :: rest => .ok rest
  | [] => .error .incomplete
  | _ => .error .malformed

/-- Read the elements of a list up to its end, at most as many as `fuel` tells. -/
def readElements {α : Type} (element : Reader α) : Nat → Bool → Reader (List α)
  | 0, _, _ => .error .malformed
  | fuel + 1, isFirst, cs =>
    match nextElement isFirst cs with
    | .error fault => .error fault
    | .ok (false, rest) => (closeList rest).map ([], ·)
    | .ok (true, rest) =>
      match element rest with
      | .error fault => .error fault
      | .ok (a, rest) =>
        match readElements element fuel false rest with
        | .error fault => .error fault
        | .ok (as, rest) => .ok (a :: as, rest)

/-- Read a list. -/
def readList {α : Type} (element : Reader α) : Reader (List α) := fun cs =>
  match skipSpace cs with
  | '[' :: rest => readElements element (rest.length + 1) true rest
  | cs => .error (unsuitableValue cs)

/-- Go to the next key of a record, if there is one. The characters after it begin after the opening
quote of the key, or with the brace that closes the record. -/
def nextKey (isFirst : Bool) (cs : List Char) : Except JsonFault (Bool × List Char) :=
  match skipSpace cs with
  | [] => .error .incomplete
  | '\x7d' :: rest => .ok (false, '\x7d' :: rest)
  | c :: rest =>
    if isFirst then if c = '"' then .ok (true, rest) else .error .malformed
    else if c = ',' then
      match skipSpace rest with
      | [] => .error .incomplete
      | '"' :: rest => .ok (true, rest)
      | _ => .error .malformed
    else .error .malformed

/-- Read the end of a record. -/
def closeRecord (cs : List Char) : Except JsonFault (List Char) :=
  match skipSpace cs with
  | '\x7d' :: rest => .ok rest
  | [] => .error .incomplete
  | _ => .error .malformed

/-- Read the colon between a key and its value. -/
def readColon (cs : List Char) : Except JsonFault (List Char) :=
  match skipSpace cs with
  | ':' :: rest => .ok rest
  | [] => .error .incomplete
  | _ => .error .malformed

/-- A list or a record that is open. -/
inductive Frame where
  | list
  | record
deriving Repr, DecidableEq

/-- The character that closes a frame. -/
def Frame.closing : Frame → Char
  | list => ']'
  | record => '\x7d'

/-- What comes next where values are passed over. -/
inductive Expected where
  | value
  | key
  | afterOpening
  | afterValue
deriving Repr, DecidableEq

/-- What a frame holds: values, or keys with values. -/
def Frame.expects : Frame → Expected
  | list => .value
  | record => .key

/-- Pass over what is expected and everything up to the end of the outermost of the open frames, of
which the innermost comes first, in at most `fuel` steps. -/
def skipFrames : Nat → Expected → List Frame → List Char → Except JsonFault (List Char)
  | 0, _, _, _ => .error .malformed
  | fuel + 1, .value, frames, cs =>
    let next (result : Except JsonFault (List Char)) : Except JsonFault (List Char) :=
      match result with
      | .ok rest => skipFrames fuel .afterValue frames rest
      | .error fault => .error fault
    match skipSpace cs with
    | [] => .error .incomplete
    | 'n' :: rest => next (readLiteral ['u', 'l', 'l'] rest)
    | 't' :: rest => next (readLiteral ['r', 'u', 'e'] rest)
    | 'f' :: rest => next (readLiteral ['a', 'l', 's', 'e'] rest)
    | '"' :: rest => next (skipString rest)
    | '-' :: rest => next (skipNumber rest)
    | '[' :: rest => skipFrames fuel .afterOpening (.list :: frames) rest
    | '\x7b' :: rest => skipFrames fuel .afterOpening (.record :: frames) rest
    | c :: rest => if c.isDigit then next (skipNumber (c :: rest)) else .error .malformed
  | fuel + 1, .key, frames, cs =>
    match skipSpace cs with
    | [] => .error .incomplete
    | '"' :: rest =>
      match skipString rest with
      | .error fault => .error fault
      | .ok rest =>
        match readColon rest with
        | .error fault => .error fault
        | .ok rest => skipFrames fuel .value frames rest
    | _ => .error .malformed
  | _ + 1, _, [], cs => .ok cs
  | fuel + 1, .afterOpening, frame :: frames, cs =>
    match skipSpace cs with
    | [] => .error .incomplete
    | c :: rest =>
      if c = frame.closing then skipFrames fuel .afterValue frames rest
      else skipFrames fuel frame.expects (frame :: frames) (c :: rest)
  | fuel + 1, .afterValue, frame :: frames, cs =>
    match skipSpace cs with
    | [] => .error .incomplete
    | c :: rest =>
      if c = frame.closing then skipFrames fuel .afterValue frames rest
      else if c = ',' then skipFrames fuel frame.expects (frame :: frames) rest
      else .error .malformed

/-- Pass over a value of any kind. -/
def skipValue (cs : List Char) : Except JsonFault (List Char) :=
  skipFrames (2 * cs.length + 2) .value [] cs

/-- Read a whole text, in which nothing but space may follow the value. -/
def readWhole {α : Type} (value : Reader α) (text : String) : Except JsonFault α :=
  match value text.toList with
  | .error fault => .error fault
  | .ok (a, rest) => if skipSpace rest = [] then .ok a else .error .malformed

end TextAnalysis.Json
