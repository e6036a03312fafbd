import GraphAnswers.Text.CharacterSet.Named
import GraphAnswers.Text.Property
import GraphAnswers.Text.Script
/-!
# Sets of characters by their Unicode properties

A general category or a script is named in short (`Lu`, `Grek`) or in full (`Uppercase_Letter`,
`Greek`), and so are some other properties.  In names, the case of letters, blanks, hyphens and
underscores do not matter, nor does `is` in front.
-/
namespace GraphAnswers.Text.CharacterSet

/-- A name in the form in which names are compared. -/
def plainName (name : List Char) : String :=
  let plain (cs : List Char) : List Char :=
    (cs.filter fun c => c.toNat < 0x80 && c != ' ' && c != '-' && c != '_').map Char.toLower
  match name with
  | first :: second :: rest =>
    if first.toLower == 'i' && second.toLower == 's' then
      let plain := plain rest
      String.ofList (if plain = ['c'] then ['i', 's', 'c'] else plain)
    else String.ofList (plain name)
  | _ => String.ofList (plain name)

/-- The general categories that a name stands for. -/
def categories? (name : String) : Option (List Category) :=
  let those (p : Category → Bool) : Option (List Category) := some (Category.all.filter p)
  match name with
  | "l" | "letter" => those Category.isLetter
  | "lc" | "casedletter" => some [.lu, .ll, .lt]
  | "lu" | "uppercaseletter" => some [.lu]
  | "ll" | "lowercaseletter" => some [.ll]
  | "lt" | "titlecaseletter" => some [.lt]
  | "lm" | "modifierletter" => some [.lm]
  | "lo" | "otherletter" => some [.lo]
  | "m" | "mark" | "combiningmark" => those Category.isMark
  | "mn" | "nonspacingmark" => some [.mn]
  | "mc" | "spacingmark" => some [.mc]
  | "me" | "enclosingmark" => some [.me]
  | "n" | "number" => those Category.isNumber
  | "nd" | "decimalnumber" | "digit" => some [.nd]
  | "nl" | "letternumber" => some [.nl]
  | "no" | "othernumber" => some [.no]
  | "p" | "punctuation" | "punct" => those Category.isPunctuation
  | "pc" | "connectorpunctuation" => some [.pc]
  | "pd" | "dashpunctuation" => some [.pd]
  | "ps" | "openpunctuation" => some [.ps]
  | "pe" | "closepunctuation" => some [.pe]
  | "pi" | "initialpunctuation" => some [.pi]
  | "pf" | "finalpunctuation" => some [.pf]
  | "po" | "otherpunctuation" => some [.po]
  | "s" | "symbol" => those Category.isSymbol
  | "sm" | "mathsymbol" => some [.sm]
  | "sc" | "currencysymbol" => some [.sc]
  | "sk" | "modifiersymbol" => some [.sk]
  | "so" | "othersymbol" => some [.so]
  | "z" | "separator" => those Category.isSeparator
  | "zs" | "spaceseparator" => some [.zs]
  | "zl" | "lineseparator" => some [.zl]
  | "zp" | "paragraphseparator" => some [.zp]
  | "c" | "other" => those Category.isOther
  | "cc" | "control" | "cntrl" => some [.cc]
  | "cf" | "format" => some [.cf]
  | "co" | "privateuse" => some [.co]
  | "cn" | "unassigned" => some [.cn]
  | "assigned" => those (· != .cn)
  | _ => .none

/-- The room for the characters of general categories. -/
def roomOfCategories (found : List Category) : Nat :=
  roomFor (Category.runs.countP fun run => found.contains run.2)

/-- The set of a name of general categories. -/
def ofCategory? (name : String) : Option CharacterSet :=
  match name with
  | "any" => some all
  | "ascii" => some (inAscii (fun _ => true) 1)
  | _ => (categories? name).map fun found =>
    ⟨fun c => found.contains (Category.of c), roomOfCategories found⟩

/-- The room for the characters with a property. -/
def roomOf (p : Property) : Nat := roomOfCategories p.categories + roomFor p.exceptions.length

/-- The set of a name of a script. -/
def ofScript? (name : String) : Option CharacterSet :=
  (Script.code? name).map fun code =>
    ⟨fun c => Script.of c == code, roomFor (Script.runs.countP (·.2 == code))⟩

/-- The set of a name. -/
def ofProperty? (name : String) : Option CharacterSet :=
  match name with
  | "alphabetic" | "alpha" => some ⟨isAlphabetic, roomFor 730⟩
  | "whitespace" | "wspace" | "space" => some (blank false)
  | "asciihexdigit" | "ahex" => ofName? "xdigit"
  | _ =>
    match Property.named? name with
    | some property => some ⟨property.holds, roomOf property⟩
    | .none => (ofCategory? name).orElse fun _ => ofScript? name

/-- What stands before and after the first occurrence of a mark. -/
def splitAt? (mark : List Char) : List Char → Option (List Char × List Char)
  | [] => .none
  | c :: cs =>
    if mark.isPrefixOf (c :: cs) then some ([], (c :: cs).drop mark.length)
    else (splitAt? mark cs).map fun (before, after) => (c :: before, after)

/-- A set by a property and its value. -/
def ofValue? (property value : List Char) : Option CharacterSet :=
  match plainName property with
  | "gc" | "generalcategory" => ofCategory? (plainName value)
  | "sc" | "script" => ofScript? (plainName value)
  | _ => .none

/-- The set that a description stands for, and whether its complement is meant: a name, or a property
with a value after `=`, `:` or, for the complement, `!=`. -/
def ofDescription? (description : List Char) : Option (CharacterSet × Bool) :=
  match splitAt? ['!', '='] description with
  | some (property, value) => (ofValue? property value).map (·, true)
  | .none =>
    match (splitAt? [':'] description).orElse fun _ => splitAt? ['='] description with
    | some (property, value) => (ofValue? property value).map (·, false)
    | .none => (ofProperty? (plainName description)).map (·, false)

end GraphAnswers.Text.CharacterSet
