/-!
# Byte offsets

Places in a text are counted in bytes of its UTF-8 form. A place is meaningful only where a
character begins or at the end of the text, and a slice between two places exists only when both
are meaningful and in order.
-/

namespace TextAnalysis.Text

/-- The number of bytes that the characters take. -/
def byteLength : List Char → Nat
  | [] => 0
  | c :: cs => c.utf8Size + byteLength cs

/-- The characters from byte `n` on, if a character begins there or the text ends there. -/
def dropBytes? : Nat → List Char → Option (List Char)
  | 0, cs => some cs
  | _ + 1, [] => none
  | n + 1, c :: cs => if c.utf8Size ≤ n + 1 then dropBytes? (n + 1 - c.utf8Size) cs else none

/-- The characters before byte `n`, if a character begins there or the text ends there. -/
def takeBytes? : Nat → List Char → Option (List Char)
  | 0, _ => some []
  | _ + 1, [] => none
  | n + 1, c :: cs =>
    if c.utf8Size ≤ n + 1 then (takeBytes? (n + 1 - c.utf8Size) cs).map (c :: ·) else none

/-- The part of a text from byte `start` up to byte `stop`. -/
def slice? (text : String) (start stop : Nat) : Option String :=
  if stop < start then none
  else
    ((dropBytes? start text.toList).bind (takeBytes? (stop - start))).map String.ofList

end TextAnalysis.Text
