import GraphAnswers.Text.Reader
import GraphAnswers.Text.Utf8
import GraphAnswers.Text.Words
/-!
# File URIs

A path of an index file that opens with `file:` is a URI.  After an authority, which must be empty or
`localhost`, come the path of the file, options behind a question mark, and a fragment that does not
count.  `%` and two hexadecimal digits stand for an octet; a zero octet ends the part it stands in.
-/
namespace GraphAnswers.Text

/-- A file URI taken apart. -/
structure FileUri where
  /-- The path of the file. -/
  path : String
  /-- The options, by name, in order. -/
  options : List (String × String)
  deriving DecidableEq, Repr

namespace FileUri

/-- The octets that characters stand for. -/
def octetsOf : List Char → List UInt8
  | '%' :: a :: b :: rest =>
    match Reader.whole (Reader.hexNumber 2) [a, b] with
    | some octet => octet.toUInt8 :: octetsOf rest
    | none => octets "%" ++ octetsOf (a :: b :: rest)
  | c :: rest => octets c.toString ++ octetsOf rest
  | [] => []

/-- The text that characters stand for, up to a zero octet. -/
def decode? (cs : List Char) : Option String := ofOctets? ((octetsOf cs).takeWhile (· != 0))

/-- An option, from its text. -/
def option? (cs : List Char) : Option (String × String) := do
  let name ← decode? (cs.takeWhile (· != '='))
  let value ← decode? ((cs.dropWhile (· != '=')).drop 1)
  pure (name, value)

/-- Leaves out an authority; any but an empty one and `localhost` is refused. -/
def withoutAuthority? : List Char → Option (List Char)
  | '/' :: '/' :: rest =>
    let authority := String.ofList (rest.takeWhile (· != '/'))
    if authority = "" ∨ authority = "localhost" then some (rest.dropWhile (· != '/')) else none
  | cs => some cs

/-- Takes the characters after `file:` apart.  Options without a name do not count. -/
def ofList? (cs : List Char) : Option FileUri := do
  let shown := (← withoutAuthority? cs).takeWhile (· != '#')
  let path ← decode? (shown.takeWhile (· != '?'))
  let listed := splitWhere (· == '&') ((shown.dropWhile (· != '?')).drop 1)
  let options ← listed.mapM option?
  pure { path, options := options.filter fun o => !o.1.isEmpty }

end FileUri

end GraphAnswers.Text
