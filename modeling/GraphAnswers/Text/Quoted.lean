import GraphAnswers.Text.Unprintable
/-!
# Quoted texts

How messages show a text: in double quotes, with a backslash before quotes and backslashes, with
names for the common controls, and with the numbers of other characters that have no shape of their
own.
-/
namespace GraphAnswers.Text

/-- What stands for a character between quotes. -/
def quotedChar (c : Char) : List Char :=
  if c = '\x00' then ['\\', '0']
  else if c = '\t' then ['\\', 't']
  else if c = '\r' then ['\\', 'r']
  else if c = '\n' then ['\\', 'n']
  else if c = '"' ∨ c = '\\' then ['\\', c]
  else if isUnprintable c then "\\u\x7b".toList ++ Nat.toDigits 16 c.toNat ++ ['\x7d']
  else [c]

/-- A text in quotes. -/
def quoted (s : String) : String := String.ofList ('"' :: s.toList.flatMap quotedChar ++ ['"'])

end GraphAnswers.Text
