/-!
# What stands in the way of a path

A path cannot be read, or no directory be made of it, for one of a few causes.  Each has a text and,
if systems know it, a number.
-/
namespace GraphAnswers

/-- Why a path cannot be used. -/
inductive Obstacle where
  /-- Nothing is there. -/
  | absent
  /-- The path leads out of the tree. -/
  | outside
  /-- A file is there, where a directory is to be made. -/
  | occupied
  /-- A file is on the way. -/
  | fileOnWay
  /-- A directory is there, where a file is to be read. -/
  | directory
  /-- No file or directory can have a name like one on the way. -/
  | longName
  /-- The path has a zero character. -/
  | zero
  deriving DecidableEq, Repr

namespace Obstacle

/-- The number of the cause. -/
def number? : Obstacle → Option Nat
  | absent => some 2
  | outside => some 13
  | occupied => some 17
  | fileOnWay => some 20
  | directory => some 21
  | longName => some 36
  | zero => none

/-- The text of the cause. -/
def text : Obstacle → String
  | absent => "No such file or directory"
  | outside => "Permission denied"
  | occupied => "File exists"
  | fileOnWay => "Not a directory"
  | directory => "Is a directory"
  | longName => "File name too long"
  | zero => "file name contained an unexpected NUL byte"

/-- How a program shows the cause. -/
def message (o : Obstacle) : String :=
  match o.number? with
  | some number => o.text ++ " (os error " ++ toString number ++ ")"
  | none => o.text

end Obstacle

end GraphAnswers
