/-!
# Text as octets

Texts are written and read in UTF-8.  Octets that are no UTF-8 are no text.
-/
namespace GraphAnswers.Text

/-- The octets of a text. -/
def octets (s : String) : List UInt8 := s.toUTF8.toList

/-- The text that octets stand for. -/
def ofOctets? (os : List UInt8) : Option String := String.fromUTF8? ⟨os.toArray⟩

end GraphAnswers.Text
