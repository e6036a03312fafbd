import GraphAnswers.Text.CharacterSet
/-!
# Patterns

A pattern says which stretches of a text fit it: it is made of single characters, of conditions on
the two characters around a place, of sequences, choices and repetitions.  Whether a pattern occurs
in a text is found by following all stretches at once: a set of places, one between any two
characters and one at either end, becomes the set of places where a fitting stretch can end that
begins at one of them (`Pattern.ends`).
-/
namespace GraphAnswers.Text

/-- What a stretch of a text has to be like. -/
inductive Pattern where
  /-- An empty stretch. -/
  | empty
  /-- A single character. -/
  | character (among : CharacterSet)
  /-- An empty stretch at a place, by the characters before it and after it. -/
  | between (holds : Option Char → Option Char → Bool)
  /-- One stretch after another. -/
  | sequence (first second : Pattern)
  /-- A stretch of either kind. -/
  | choice (first second : Pattern)
  /-- A number of stretches, at least and at most so many. -/
  | repeated (part : Pattern) (least : Nat) (most : Option Nat)

namespace Pattern

/-- Patterns one after another. -/
def ofParts : List Pattern → Pattern
  | [] => empty
  | [part] => part
  | part :: rest => sequence part (ofParts rest)

/-- Patterns of which one is to fit, the empty one if there is none. -/
def ofChoices : List Pattern → Pattern
  | [] => empty
  | [one] => one
  | one :: rest => choice one (ofChoices rest)

/-! ### Where a pattern fits -/

/-- Some of the places of a text, in order. -/
abbrev Places := List Bool

/-- The characters before and after each place, where `before` is the one before the first. -/
def surroundings (before : Option Char) : List Char → List (Option Char × Option Char)
  | [] => [(before, none)]
  | c :: cs => (before, some c) :: surroundings (some c) cs

/-- The places that belong to either set. -/
def joined (a b : Places) : Places := List.zipWith (· || ·) a b

/-- The places reached by a number of steps. -/
def reached (step : Places → Places) : Nat → Places → Places
  | 0, places => places
  | n + 1, places => if places.contains true then reached step n (step places) else places

/-- The places reached by at most a number of steps. -/
def reachable (step : Places → Places) : Nat → Places → Places
  | 0, places => places
  | n + 1, places =>
    let more := joined places (step places)
    if more = places then places else reachable step n more

/-- The places where a fitting stretch can end that begins at one of the given places.  No repetition
reaches anything new after more rounds than the text has characters. -/
def ends (text : List Char) : Pattern → Places → Places
  | empty, places => places
  | character among, places =>
    false :: List.zipWith (fun here c => here && among.has c) places text
  | between holds, places =>
    List.zipWith (fun here around => here && holds around.1 around.2) places (surroundings none text)
  | sequence first second, places => ends text second (ends text first places)
  | choice first second, places => joined (ends text first places) (ends text second places)
  | repeated part least most, places =>
    let rounds := text.length + 1
    let more := match most with
      | none => rounds
      | some most => min (most - least) rounds
    reachable (ends text part) more (reached (ends text part) (min least rounds) places)

/-- Whether some stretch of a text fits. -/
def occursIn (p : Pattern) (text : String) : Bool :=
  let characters := text.toList
  (p.ends characters (List.replicate (characters.length + 1) true)).contains true

/-! ### The room that a pattern takes -/

/-- Whether only empty stretches can fit. -/
def takesNothing : Pattern → Bool
  | empty | between _ => true
  | character _ => false
  | sequence first second | choice first second => first.takesNothing && second.takesNothing
  | repeated part _ most => most == some 0 || part.takesNothing

/-- About how many octets a machine takes that reads a text for the pattern: repetitions are written
out, except for those of what takes nothing. -/
def room : Pattern → Nat
  | empty | between _ => 32
  | character among => among.room
  | sequence first second => first.room + second.room
  | choice first second => first.room + second.room + 72
  | repeated part least most =>
    if part.takesNothing then part.room + 40
    else
      match most with
      | none => part.room * max 1 least + 40
      | some most => part.room * least + (part.room + 40) * (most - least)

end Pattern

end GraphAnswers.Text
