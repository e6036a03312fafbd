import GraphAnswers.Text.Words
/-!
# Arguments of a program

What a program is called with: switches, each with a long name and possibly a letter, and other
arguments.  The value of a switch is the next argument, or stands in the same one: `--index=films`,
`-i=films`, `-ifilms`.  Letters of switches without value may be put together.  An argument that opens
with a hyphen is no value, and after `--` no argument is a switch.  Nothing after the switch `--help`
is looked at.
-/
namespace GraphAnswers

/-- A switch that a program understands. -/
structure Switch where
  name : String
  letter : Option Char := none
  takesValue : Bool := false
  /-- Whether it may be given more than once. -/
  isRepeatable : Bool := false

/-- The switch that asks how the program is called. -/
def Switch.help : Switch where
  name := "help"
  letter := some 'h'

/-- Arguments sorted out: the switches given, with their values, and the other arguments. -/
structure Arguments where
  given : List (String × String) := []
  others : List String := []
  deriving DecidableEq, Repr

namespace Arguments

/-- Whether a switch was given. -/
def has (a : Arguments) (name : String) : Bool := a.given.any (·.1 == name)

/-- The values given for a switch, in order. -/
def values (a : Arguments) (name : String) : List String :=
  (a.given.filter (·.1 == name)).map Prod.snd

/-- The value given for a switch. -/
def value? (a : Arguments) (name : String) : Option String := (a.values name).head?

/-- Puts a switch in front. -/
def give (name value : String) (a : Arguments) : Arguments :=
  { a with given := (name, value) :: a.given }

/-- What an argument that names switches comes to: the switches without value, and the one with a
value, if it is there already. -/
structure Named where
  plain : List String := []
  valued : Option (String × Option String) := none

/-- The switch that a long name names, where `=` separates its value. -/
def named? (switches : List Switch) (text : List Char) : Option Named := do
  let name := String.ofList (text.takeWhile (· != '='))
  let switch ← switches.find? (·.name == name)
  match text.dropWhile (· != '='), switch.takesValue with
  | [], false => pure { plain := [name] }
  | [], true => pure { valued := some (name, none) }
  | _ :: value, true => pure { valued := some (name, some (String.ofList value)) }
  | _ :: _, false => none

/-- The switches that letters name; what follows the letter of one with a value is its value, and what
follows the letter that asks for help does not matter. -/
def lettered? (switches : List Switch) : List Char → Option Named
  | [] => some {}
  | c :: rest => do
    let switch ← switches.find? (·.letter == some c)
    if switch.takesValue then
      pure <| match rest with
        | [] => { valued := some (switch.name, none) }
        | '=' :: value => { valued := some (switch.name, some (String.ofList value)) }
        | value => { valued := some (switch.name, some (String.ofList value)) }
    else if switch.name = Switch.help.name then pure { plain := [switch.name] }
    else
      let more ← lettered? switches rest
      pure { more with plain := switch.name :: more.plain }

/-- The switches that an argument names; `none` if it is no switch at all. -/
def switchesOf? (switches : List Switch) (argument : String) : Option (Option Named) :=
  match argument.toList with
  | '-' :: '-' :: text => some (named? switches text)
  | '-' :: c :: rest => some (lettered? switches (c :: rest))
  | _ => none

/-- Sorts arguments out. -/
def sort (switches : List Switch) : List String → Option Arguments
  | [] => some {}
  | argument :: rest =>
    if argument = "--" then some { others := rest }
    else
      match switchesOf? switches argument with
      | none => (sort switches rest).map fun a => { a with others := argument :: a.others }
      | some none => none
      | some (some named) =>
        let withPlain (a : Arguments) : Arguments :=
          named.plain.foldr (fun name a => a.give name "") a
        if named.plain.contains Switch.help.name then some (withPlain {}) else
        match named.valued with
        | none => (sort switches rest).map withPlain
        | some (name, some value) =>
          (sort switches rest).map fun a => withPlain (a.give name value)
        | some (name, none) =>
          match rest with
          | [] => none
          | value :: rest =>
            if value = "--" ∨ (switchesOf? [] value).isSome then none
            else (sort switches rest).map fun a => withPlain (a.give name value)

/-- Sorts arguments out, and refuses a switch given twice that may not be repeated. -/
def read? (switches : List Switch) (arguments : List String) : Option Arguments :=
  (sort switches arguments).filter fun a =>
    switches.all fun s => s.isRepeatable || (a.values s.name).length ≤ 1

end Arguments

end GraphAnswers
