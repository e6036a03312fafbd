/-!
# Numerals

Natural numbers in decimal digits, read under a bound: what stands for a count in a question or for
the version of a migration.  A numeral has at least one ASCII digit, may be led by one `+`, may have
leading zeros, and denotes at most the bound.
-/
namespace GraphAnswers.Text

/-- The value of a list of decimal digits, continuing from `n`; nothing when another character
occurs. -/
def digitsFrom (n : Nat) : List Char → Option Nat
  | [] => some n
  | c :: cs => if c.isDigit then digitsFrom (n * 10 + (c.toNat - '0'.toNat)) cs else none

/-- The value of a non-empty list of decimal digits. -/
def digits? : List Char → Option Nat
  | [] => none
  | cs => digitsFrom 0 cs

/-- The value of a numeral, when it is at most `bound`. -/
def numeral? (bound : Nat) (s : String) : Option Nat :=
  let value := match s.toList with
    | '+' :: cs => digits? cs
    | cs => digits? cs
  value.filter (· ≤ bound)

/-- The largest count that fits a 64-bit word. -/
def maxCount : Nat := 18446744073709551615

end GraphAnswers.Text
