import SearchQuery.Text.Space
import SearchQuery.Toml.Value

/-!
# Values that are one word

Booleans, numbers, dates and times are runs of characters without white space. A
run is a value if it has exactly one of their forms. Digits may be grouped by single
underscores; an integer does not start with a superfluous zero; a date exists in the
calendar. How large a number is does not matter here.
-/

namespace SearchQuery.Toml

namespace Scalar

/-! ## Digits -/

/-- The value of a digit, if it is one in the base. -/
def digit? (base : Nat) (c : Char) : Option Nat :=
  let n := c.toNat
  let value? :=
    if 0x30 ≤ n && n ≤ 0x39 then some (n - 0x30)
    else if 0x41 ≤ n && n ≤ 0x46 then some (n - 0x37)
    else if 0x61 ≤ n && n ≤ 0x66 then some (n - 0x57)
    else none
  value?.filter (· < base)

/-- Whether a character is a decimal digit. -/
def isDigit (c : Char) : Bool := (digit? 10 c).isSome

/-- The number that digits write. -/
def number (base : Nat) (digits : List Char) : Nat :=
  digits.foldl (fun n c => n * base + (digit? base c).getD 0) 0

/-- The digits of a run in which single underscores may stand between digits. -/
def grouped? (base : Nat) (run : List Char) : Option (List Char) :=
  let groups := Text.pieces (· = '_') run
  if groups.all (fun g => !g.isEmpty && g.all (fun c => (digit? base c).isSome)) then
    some groups.flatten
  else none

/-- A run without its sign, and whether that is a minus. -/
def splitSign : List Char → Bool × List Char
  | '+' :: rest => (false, rest)
  | '-' :: rest => (true, rest)
  | run => (false, run)

/-- The digits of a decimal integer without sign. -/
def whole? (run : List Char) : Option (List Char) :=
  match grouped? 10 run with
  | some ('0' :: _ :: _) => none
  | digits => digits

/-! ## Integers -/

/-- The integer of the digits in a base that is named before them; it may have no digits. -/
def based? (base : Nat) (digits : List Char) : Option (Option Int) :=
  if digits.isEmpty then some none
  else (grouped? base digits).map fun ds => some (number base ds : Int)

/-- The integer of a run: decimal with an optional sign, or in one of three other bases. -/
def integer? (run : List Char) : Option (Option Int) :=
  match run with
  | '0' :: 'x' :: digits => based? 16 digits
  | '0' :: 'o' :: digits => based? 8 digits
  | '0' :: 'b' :: digits => based? 2 digits
  | _ =>
    let (negative, digits) := splitSign run
    (whole? digits).map fun ds =>
      some (if negative then -(number 10 ds : Int) else (number 10 ds : Int))

/-! ## Floating point numbers -/

/-- The exponent of a number, from the digits after its `e`. -/
def exponent? (run : List Char) : Option Int :=
  let (negative, digits) := splitSign run
  (grouped? 10 digits).map fun ds =>
    if negative then -(number 10 ds : Int) else (number 10 ds : Int)

/-- The digits of a number without sign, and the power of ten that they are multiplied with.
There must be a fraction or an exponent. -/
def decimal? (run : List Char) : Option (Nat × Int) :=
  let isE (c : Char) : Bool := c = 'e' || c = 'E'
  let significand := run.takeWhile (fun c => !isE c)
  let exponent : Option Int := match run.dropWhile (fun c => !isE c) with
    | [] => some 0
    | _ :: rest => exponent? rest
  let whole := significand.takeWhile (· ≠ '.')
  match exponent, whole? whole, significand.dropWhile (· ≠ '.') with
  | some e, some ds, [] => if significand.length = run.length then none else some (number 10 ds, e)
  | some e, some ds, _ :: fraction =>
    (grouped? 10 fraction).map fun fs => (number 10 (ds ++ fs), e - fs.length)
  | _, _, _ => none

/-- The floating point number of a run; it may be too large. -/
def float? (run : List Char) : Option (Option Float) :=
  let (negative, magnitude) := splitSign run
  if magnitude = ['i', 'n', 'f'] then some (some (.infinite negative))
  else if magnitude = ['n', 'a', 'n'] then some (some .nan)
  else
    (decimal? magnitude).map fun (digits, exponent) =>
      (Binary64.ofDecimal? digits exponent).map (.finite negative)

/-! ## Dates and times -/

/-- The number of days in a month of a year. -/
def daysIn (year month : Nat) : Nat :=
  if month = 2 then
    if year % 4 = 0 && (year % 100 ≠ 0 || year % 400 = 0) then 29 else 28
  else if month = 4 || month = 6 || month = 9 || month = 11 then 30
  else 31

/-- Whether a run is a date of the calendar. -/
def isDate : List Char → Bool
  | [y₁, y₂, y₃, y₄, '-', m₁, m₂, '-', d₁, d₂] =>
    let year := [y₁, y₂, y₃, y₄]
    let month := [m₁, m₂]
    let day := [d₁, d₂]
    (year ++ month ++ day).all isDigit &&
      1 ≤ number 10 month && number 10 month ≤ 12 &&
      1 ≤ number 10 day && number 10 day ≤ daysIn (number 10 year) (number 10 month)
  | _ => false

/-- Whether two characters write a number up to `last`. -/
def isTwoDigits (last : Nat) (a b : Char) : Bool :=
  isDigit a && isDigit b && number 10 [a, b] ≤ last

/-- Whether a run is a time of the day; the seconds and their fraction may be missing. -/
def isTime : List Char → Bool
  | [h₁, h₂, ':', m₁, m₂] => isTwoDigits 23 h₁ h₂ && isTwoDigits 59 m₁ m₂
  | h₁ :: h₂ :: ':' :: m₁ :: m₂ :: ':' :: s₁ :: s₂ :: fraction =>
    isTwoDigits 23 h₁ h₂ && isTwoDigits 59 m₁ m₂ && isTwoDigits 60 s₁ s₂ &&
      match fraction with
      | [] => true
      | '.' :: digits => !digits.isEmpty && digits.all isDigit
      | _ => false
  | _ => false

/-- Whether a run is a time of the day with an optional offset from universal time. -/
def isTimeWithOffset (run : List Char) : Bool :=
  let time := run.takeWhile (fun c => isDigit c || c = ':' || c = '.')
  isTime time &&
    match run.dropWhile (fun c => isDigit c || c = ':' || c = '.') with
    | [] => true
    | ['Z'] => true
    | ['z'] => true
    | [sign, h₁, h₂, ':', m₁, m₂] =>
      (sign = '+' || sign = '-') && isTwoDigits 23 h₁ h₂ && isTwoDigits 59 m₁ m₂
    | _ => false

/-- Whether a run is a date, a time, or a date and a time. -/
def isDatetime (run : List Char) : Bool :=
  isDate run || isTime run ||
    (isDate (run.take 10) &&
      match run.drop 10 with
      | 'T' :: time => isTimeWithOffset time
      | 't' :: time => isTimeWithOffset time
      | ' ' :: time => isTimeWithOffset time
      | _ => false)

/-! ## All of them -/

/-- The value that a run of characters writes, if it writes one. -/
def ofRun? (run : List Char) : Option Value :=
  if run = ['t', 'r', 'u', 'e'] then some (.boolean true)
  else if run = ['f', 'a', 'l', 's', 'e'] then some (.boolean false)
  else if isDatetime run then some (.datetime (String.ofList run))
  else
    match integer? run with
    | some n => some (.integer n)
    | none => (float? run).map .float

end Scalar

end SearchQuery.Toml
