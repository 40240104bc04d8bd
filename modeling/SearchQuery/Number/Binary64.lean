/-!
# Floating point numbers as people write them

A floating point number is written in decimal, stored in 53 binary digits and may
have to be shown again. Both directions are exact integer arithmetic here: a
decimal becomes the nearest number that can be stored, a tie going to the even
mantissa, and a number is shown with the fewest digits that lead back to it, the
nearest such decimal when there are several and the upper one of two equally near.

The numbers are magnitudes; a sign is kept beside them.
-/

namespace SearchQuery

/-- The number `mantissa * 2 ^ exponent`, as binary64 stores it. -/
structure Binary64 where
  mantissa : Nat
  exponent : Int
  deriving DecidableEq, Repr

namespace Binary64

/-- The positive part of an exponent. -/
def up (e : Int) : Nat := e.toNat

/-- The negative part of an exponent. -/
def down (e : Int) : Nat := (-e).toNat

/-- A power of two. -/
def twoTo (k : Nat) : Nat := Nat.pow 2 k

/-- A power of ten. -/
def tenTo (k : Nat) : Nat := Nat.pow 10 k

/-- The number of decimal digits of a number. -/
def digitCount (n : Nat) : Nat := (Nat.toDigits 10 n).length

/-- The integer nearest to `num / den`; a half goes to the even neighbour. -/
def roundHalfEven (num den : Nat) : Nat :=
  let quotient := num / den
  let rest := 2 * (num % den)
  if rest < den then quotient
  else if rest > den then quotient + 1
  else quotient + quotient % 2

/-- The largest power of two that is not above `num / den`, which is positive. -/
def floorLog2 (num den : Nat) : Int :=
  let guess : Int := (num.log2 : Int) - den.log2
  if den * twoTo (up guess) ≤ num * twoTo (down guess) then guess else guess - 1

/-- The stored number nearest to `num / den`, if it is in range. -/
def ofRatio? (num den : Nat) : Option Binary64 :=
  if num = 0 then some ⟨0, -1074⟩
  else
    let exponent := max (floorLog2 num den - 52) (-1074)
    let mantissa := roundHalfEven (num * twoTo (down exponent)) (den * twoTo (up exponent))
    let stored : Binary64 :=
      if mantissa = twoTo 53 then ⟨twoTo 52, exponent + 1⟩ else ⟨mantissa, exponent⟩
    if stored.exponent > 971 then none else some stored

/-- The stored number nearest to `digits * 10 ^ exponent`, if it is in range. -/
def ofDecimal? (digits : Nat) (exponent : Int) : Option Binary64 :=
  let magnitude : Int := digitCount digits + exponent
  if digits = 0 || magnitude < -330 then some ⟨0, -1074⟩
  else if magnitude > 310 then none
  else ofRatio? (digits * tenTo (up exponent)) (tenTo (down exponent))

/-! ## The fewest digits -/

/-- The position of the first decimal digit of `num / den`, which is positive. -/
def floorLog10 (num den : Nat) : Int :=
  if den ≤ num then (digitCount (num / den) : Int) - 1
  else
    let digits := digitCount (den / num)
    if den ≤ num * tenTo (digits - 1) then 1 - (digits : Int) else -(digits : Int)

/-- The decimals with `count` digits next to the number, when they lead back to it: those of the
form `digits * 10 ^ exponent` inside the interval of what is rounded to the number. -/
def shortestWith? (x : Binary64) (count : Nat) : Option (Nat × Int) :=
  -- all values are in quarters of the last binary place
  let scale := twoTo (up (x.exponent - 2))
  let unit := twoTo (down (x.exponent - 2))
  let middle := 4 * x.mantissa
  let low := if x.mantissa = twoTo 52 && x.exponent > -1074 then middle - 1 else middle - 2
  let high := middle + 2
  let place := floorLog10 (middle * scale) unit - count + 1
  let grid := unit * tenTo (up place)
  let inv := scale * tenTo (down place)
  let inside (digits : Nat) : Bool :=
    if x.mantissa % 2 = 0 then low * inv ≤ digits * grid && digits * grid ≤ high * inv
    else low * inv < digits * grid && digits * grid < high * inv
  let below := middle * inv / grid
  let above := below + 1
  match inside below, inside above with
  | false, false => none
  | true, false => some (below, place)
  | false, true => some (above, place)
  | true, true =>
    if middle * inv - below * grid < above * grid - middle * inv then some (below, place)
    else some (above, place)

/-- The shortest decimal that leads back to a positive number; 17 digits always do. -/
def shortest (x : Binary64) : Nat × Int :=
  let found := ((List.range 17).findSome? fun n => x.shortestWith? (n + 1)).getD (0, 0)
  if found.1 = 10 then (1, found.2 + 1) else found

/-- The number in positional notation, always with a point. -/
def text (x : Binary64) : String :=
  if x.mantissa = 0 then "0.0"
  else
    let (digits, place) := x.shortest
    let shown := Nat.toDigits 10 digits
    if 0 ≤ place then String.ofList (shown ++ List.replicate (up place) '0') ++ ".0"
    else if down place < shown.length then
      let whole := shown.length - down place
      String.ofList (shown.take whole) ++ "." ++ String.ofList (shown.drop whole)
    else "0." ++ String.ofList (List.replicate (down place - shown.length) '0' ++ shown)

end Binary64

end SearchQuery
