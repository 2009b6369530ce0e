/-!
# UTF-8

Text as bytes, and bytes as text where they are its UTF-8 form.
-/

namespace TextAnalysis.Text

/-- The UTF-8 form of a text. -/
def toBytes (s : String) : List UInt8 := s.toByteArray.data.toList

/-- The text of which the bytes are the UTF-8 form. -/
def ofBytes? (bytes : List UInt8) : Option String := String.fromUTF8? ⟨bytes.toArray⟩

end TextAnalysis.Text
