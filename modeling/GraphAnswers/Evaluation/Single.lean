import GraphAnswers.Text.Words
/-!
# Numbers in single precision

Accuracies are fractions in single precision: 24 significant binary digits, the exponent of the last
one from -149 to 104.  Every operation is exact arithmetic followed by one rounding to the nearest
such number, of two equally near ones to that with the even last digit (`roundDiv`, `ofRatio`).
Decimal texts of a fixed number of places are rounded from the exact value in the same way.
-/
namespace GraphAnswers

/-- The quotient rounded to the nearest integer, of two equally near ones to the even one. -/
def roundDiv (num den : Nat) : Nat :=
  let q := num / den
  let twice := 2 * (num % den)
  if twice < den then q
  else if den < twice then q + 1
  else if q % 2 = 0 then q else q + 1

/-- A number in single precision. -/
inductive Single where
  /-- `± mantissa · 2 ^ exponent`, where the mantissa has 24 digits unless the exponent is the least
  one. -/
  | finite (negative : Bool) (mantissa : Nat) (exponent : Int)
  | infinite (negative : Bool)
  | nan
  deriving DecidableEq, Repr

namespace Single

/-- The least number of 24 binary digits. -/
def half : Nat := 8388608

/-- The least number of 25 binary digits. -/
def full : Nat := 16777216

/-- The weight of the sign among the bits. -/
def signBit : Nat := 2147483648

/-- The number `n · 2 ^ e` as a ratio. -/
def scaled (n : Nat) (e : Int) : Nat × Nat := (n * Nat.pow 2 e.toNat, Nat.pow 2 (-e).toNat)

/-- Rounds a ratio of natural numbers, the lower one not zero. -/
def ofRatio (negative : Bool) (num den : Nat) : Single :=
  if num = 0 then .finite negative 0 (-149)
  else
    -- the exponent of the last digit: 23 below that of the first, which is one of two
    let guess : Int := (num.log2 : Int) - (den.log2 : Int) - 23
    let fits (e : Int) : Bool :=
      let (n, d) := scaled 1 e
      num * d < den * n * full
    let e := max (-149)
      (if fits (guess - 1) then guess - 1 else if fits guess then guess else guess + 1)
    let (n, d) := scaled 1 e
    let m := roundDiv (num * d) (den * n)
    let (m, e) := if m = full then (half, e + 1) else (m, e)
    if 104 < e then .infinite negative else .finite negative m e

/-- A natural number in single precision. -/
def ofNat (n : Nat) : Single := ofRatio false n 1

/-- The quotient of two natural numbers, both in single precision. -/
def quotient (p q : Nat) : Single :=
  match ofNat p, ofNat q with
  | .finite _ m e, .finite _ n f =>
    let (a, b) := scaled m e
    let (c, d) := scaled n f
    ofRatio false (a * d) (b * c)
  | _, _ => .nan

/-- The hundredfold of a number. -/
def percent : Single → Single
  | finite negative m e =>
    let (a, b) := scaled m e
    ofRatio negative (100 * a) b
  | other => other

/-- Whether one number is at most another; nothing is comparable to what is no number. -/
def le : Single → Single → Bool
  | nan, _ | _, nan => false
  | infinite true, _ | _, infinite false => true
  | _, infinite true | infinite false, _ => false
  | finite s m e, finite t n f =>
    let (a, b) := scaled m e
    let (c, d) := scaled n f
    let signed (negative : Bool) (k : Nat) : Int := if negative then -(k : Int) else k
    signed s (a * d) ≤ signed t (c * b)

/-- The 32 bits of a number. -/
def bits : Single → Nat
  | finite negative m e =>
    let magnitude := if m < half then m else (e + 150).toNat * half + (m - half)
    (if negative then signBit else 0) + magnitude
  | infinite negative => (if negative then signBit else 0) + 255 * half
  | nan => 255 * half + half / 2

/-! ### Decimal texts -/

/-- A number with a fixed number of decimal places. -/
def toFixed (places : Nat) : Single → String
  | nan => "NaN"
  | infinite negative => (if negative then "-" else "") ++ "inf"
  | finite negative m e =>
    let (a, b) := scaled m e
    let digits := (toString (roundDiv (a * Nat.pow 10 places) b)).toList
    let digits := List.replicate (places + 1 - digits.length) '0' ++ digits
    let whole := String.ofList (digits.take (digits.length - places))
    let rest := digits.drop (digits.length - places)
    (if negative then "-" else "") ++ whole ++
      (if places = 0 then "" else "." ++ String.ofList rest)

/-- The value of a list of decimal digits. -/
def digitsValue (cs : List Char) : Nat := cs.foldl (fun v c => v * 10 + (c.toNat - '0'.toNat)) 0

/-- Rounds `n · 10 ^ e`.  Far beyond the range, only the direction matters. -/
def ofDecimal (negative : Bool) (n : Nat) (e : Int) : Single :=
  if n = 0 then ofRatio negative 0 1
  else
    let size := (toString n).length + e
    if 60 < size then .infinite negative
    else if size < -80 then ofRatio negative 0 1
    else ofRatio negative (n * Nat.pow 10 e.toNat) (Nat.pow 10 (-e).toNat)

/-- An exponent: a sign and digits. -/
def exponent? (cs : List Char) : Option Int :=
  let read (digits : List Char) : Option Int :=
    if !digits.isEmpty && digits.all Char.isDigit then some (digitsValue digits) else none
  match cs with
  | '-' :: digits => (read digits).map fun e => -e
  | '+' :: digits => read digits
  | digits => read digits

/-- The number that a decimal text without sign denotes. -/
def ofUnsigned? (negative : Bool) (cs : List Char) : Option Single :=
  let lower := String.ofList (cs.map Char.toLower)
  if lower = "inf" ∨ lower = "infinity" then some (.infinite negative)
  else if lower = "nan" then some .nan
  else
    let isMark (c : Char) : Bool := c == 'e' || c == 'E'
    let mantissa := cs.takeWhile (!isMark ·)
    let exponent := if cs.any isMark then exponent? ((cs.dropWhile (!isMark ·)).drop 1) else some 0
    let whole := mantissa.takeWhile (· != '.')
    let places := (mantissa.dropWhile (· != '.')).drop 1
    let digits := whole ++ places
    if digits.isEmpty || !digits.all Char.isDigit then none
    else exponent.map fun e => ofDecimal negative (digitsValue digits) (e - places.length)

/-- The number that a text denotes. -/
def ofText? (s : String) : Option Single :=
  match s.toList with
  | '-' :: cs => ofUnsigned? true cs
  | '+' :: cs => ofUnsigned? false cs
  | cs => ofUnsigned? false cs

end Single

end GraphAnswers
