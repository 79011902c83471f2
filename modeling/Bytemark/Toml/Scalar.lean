/-
Module: Bytemark.Toml.Scalar
Purpose: TOML booleans, numbers, dates and times.
Trusted boundary: none
Main exports: Toml.integerOf, Toml.isFloat, Toml.isDate, Toml.isTime, Toml.readScalar
-/
import Bytemark.Toml.Text

namespace Bytemark.Toml

/-!
A scalar that is no string is a run of letters, digits and the five marks
`_ + - . :`, which has to have one of the forms below as a whole.  Only a date
may go on behind a blank, with a time.

Integers have 64 bits.  Of floats only the spelling is kept, but one that is
too large for 64 bits is refused.
-/

/-- Characters that a scalar is made of. -/
def isScalarChar (c : Char) : Bool :=
  c.isAlphanum || c == '_' || c == '+' || c == '-' || c == '.' || c == ':'

/-! ## Numbers -/

/-- Whether these are digits, with single underscores between some of them. -/
def isRun (isDigit : Char → Bool) : List Char → Bool
  | [] => false
  | [c] => isDigit c
  | c :: '_' :: rest => isDigit c && isRun isDigit rest
  | c :: rest => isDigit c && isRun isDigit rest

/-- The digits of a run that count: those behind the zeros in front. -/
def countedDigits (run : List Char) : List Char :=
  (run.filter (· != '_')).dropWhile (· == '0')

/-- The number that digits stand for. -/
def digitsValue (base : Nat) (digits : List Char) : Nat :=
  digits.foldl (fun value c => match hexValue c with
    | some digit => value * base + digit
    | none => value) 0

/-- The number that a run of digits stands for, if it can be one of 64 bits: to
no base has such a number more than 64 digits that count. -/
def runValue (base : Nat) (run : List Char) : Option Nat :=
  let digits := countedDigits run
  if 64 < digits.length then none else some (digitsValue base digits)

/-- Whether a character is a digit to a base up to sixteen. -/
def isDigitOf (base : Nat) (c : Char) : Bool :=
  match hexValue c with
  | some digit => digit < base
  | none => false

/-- Whether this is a decimal number without sign and without idle zeros. -/
def isDecimal (token : List Char) : Bool :=
  isRun (isDigitOf 10) token && (token.head? != some '0' || token == ['0'])

/-- The number within the range of 64 bits with a sign. -/
def inRange (value : Int) : Option Int :=
  if Int64.minValue.toInt ≤ value && value ≤ Int64.maxValue.toInt then some value else none

/-- A token without its sign, and whether the sign was a minus. -/
def unsigned : List Char → Bool × List Char
  | '+' :: rest => (false, rest)
  | '-' :: rest => (true, rest)
  | rest => (false, rest)

/-- The value of digits to a base that a mark has announced. -/
def basedInteger (base : Nat) (run : List Char) : Option Int :=
  if isRun (isDigitOf base) run then (runValue base run).bind fun value => inRange value
  else none

/-- The value of an integer. -/
def integerOf (token : List Char) : Option Int :=
  match token with
  | '0' :: 'x' :: run => basedInteger 16 run
  | '0' :: 'o' :: run => basedInteger 8 run
  | '0' :: 'b' :: run => basedInteger 2 run
  | _ =>
      let (negative, digits) := unsigned token
      if isDecimal digits then
        (runValue 10 digits).bind fun value =>
          inRange (if negative then -(value : Int) else value)
      else none

/-- The parts of a float behind its sign: whole digits, digits behind the
point, and the exponent with its sign. -/
structure FloatParts where
  whole : List Char
  fraction : Option (List Char)
  exponent : Option (List Char)
deriving Repr, Inhabited, DecidableEq

/-- Takes a float apart at its exponent mark and its point. -/
def FloatParts.ofToken (token : List Char) : FloatParts :=
  let (mantissa, exponent) := token.span fun c => c != 'e' && c != 'E'
  let (whole, fraction) := mantissa.span (· != '.')
  let behind (part : List Char) := if part.isEmpty then none else some (part.drop 1)
  { whole, fraction := behind fraction, exponent := behind exponent }

/-- Whether the parts are runs of digits, and one of the two behind is there. -/
def FloatParts.isValid (parts : FloatParts) : Bool :=
  isDecimal parts.whole &&
    (parts.fraction.isSome || parts.exponent.isSome) &&
    parts.fraction.all (isRun (isDigitOf 10)) &&
    parts.exponent.all fun exponent => isRun (isDigitOf 10) (unsigned exponent).2

/-- The least number that is too large: it would be rounded to the power of two
above the largest float. -/
def tooLarge : Nat := Nat.pow 2 1024 - Nat.pow 2 970

/-- Whether the parts name a number that no float is close to.  An exponent
with more digits than the written digits can make up for decides alone; then a
number with more than 310 whole digits is too large and one with less than 300
is not.  Between them the whole part decides, since the bound is whole. -/
def FloatParts.overflows (parts : FloatParts) : Bool :=
  let fraction := (parts.fraction.getD []).filter (· != '_')
  let digits := countedDigits (parts.whole ++ fraction)
  let (negative, exponent) := unsigned (parts.exponent.getD [])
  let exponent := countedDigits exponent
  let reach := digits.length + fraction.length + 310
  if digits.isEmpty then false
  else if (Nat.toDigits 10 reach).length < exponent.length then !negative
  else
    let power := digitsValue 10 exponent
    let shift : Int := (if negative then -(power : Int) else power) - fraction.length
    let whole := digits.length + shift
    if whole < 300 then false
    else if 310 < whole then true
    else
      let zeros := List.replicate whole.toNat '0'
      tooLarge ≤ digitsValue 10 ((digits ++ zeros).take whole.toNat)

/-- Whether a token is a float that can be kept. -/
def isFloat (token : List Char) : Bool :=
  let (negative, magnitude) := unsigned token
  let parts := FloatParts.ofToken magnitude
  magnitude == ['i', 'n', 'f'] || magnitude == ['n', 'a', 'n'] ||
    (parts.isValid && (negative || !parts.overflows))

/-! ## Dates and times -/

/-- Reads a number of so many digits. -/
def readDigits : Nat → Nat → List Char → Option (Nat × List Char)
  | 0, value, rest => some (value, rest)
  | count + 1, value, c :: rest =>
      if c.isDigit then readDigits count (value * 10 + (c.toNat - 0x30)) rest else none
  | _ + 1, _, [] => none

/-- Days of a month. -/
def daysIn (year month : Nat) : Nat :=
  if month == 2 then
    if year % 4 == 0 && (year % 100 != 0 || year % 400 == 0) then 29 else 28
  else if month == 4 || month == 6 || month == 9 || month == 11 then 30
  else 31

/-- What follows a mark. -/
def skip (mark : Char) : List Char → Option (List Char)
  | c :: rest => if c == mark then some rest else none
  | [] => none

/-- What follows a date. -/
def skipDate (text : List Char) : Option (List Char) := do
  let (year, text) ← readDigits 4 0 text
  let text ← skip '-' text
  let (month, text) ← readDigits 2 0 text
  let text ← skip '-' text
  let (day, text) ← readDigits 2 0 text
  if 1 ≤ month && month ≤ 12 && 1 ≤ day && day ≤ daysIn year month then some text
  else none

/-- What follows hours and minutes. -/
def skipClock (text : List Char) : Option (List Char) := do
  let (hour, text) ← readDigits 2 0 text
  let text ← skip ':' text
  let (minute, text) ← readDigits 2 0 text
  if hour ≤ 23 && minute ≤ 59 then some text else none

/-- What follows a time of day.  A minute may have a leap second. -/
def skipTime (text : List Char) : Option (List Char) := do
  let text ← skipClock text
  let text ← skip ':' text
  let (second, text) ← readDigits 2 0 text
  if 60 < second then none
  else
    match text with
    | '.' :: fraction =>
        if fraction.head?.any Char.isDigit then some (fraction.dropWhile Char.isDigit)
        else none
    | _ => some text

/-- Whether this is the distance of a time zone, or nothing. -/
def isOffset (text : List Char) : Bool :=
  match text with
  | [] => true
  | c :: rest =>
      if c == 'Z' || c == 'z' then rest.isEmpty
      else if c == '+' || c == '-' then skipClock rest == some []
      else false

/-- Whether this is a time of day that stands alone. -/
def isTime (token : List Char) : Bool := skipTime token == some []

/-- Whether this is a time of day behind a date. -/
def isTimeOfDate (token : List Char) : Bool := (skipTime token).any isOffset

/-- Whether this is a date that stands alone. -/
def isDate (token : List Char) : Bool := skipDate token == some []

/-- Whether this is a date and a time in one token. -/
def isDateTime (token : List Char) : Bool :=
  match skipDate token with
  | some (c :: time) => (c == 'T' || c == 't') && isTimeOfDate time
  | _ => false

/-! ## Reading -/

/-- The forms of scalars that are no strings. -/
inductive Scalar where
  | boolean (value : Bool)
  | integer (value : Int)
  | float (literal : List Char)
  | date (literal : List Char)
deriving Repr, Inhabited, DecidableEq

/-- The scalar of a token. -/
def Scalar.ofToken (token : List Char) : Option Scalar :=
  if token == ['t', 'r', 'u', 'e'] then some (.boolean true)
  else if token == ['f', 'a', 'l', 's', 'e'] then some (.boolean false)
  else if isDate token || isDateTime token || isTime token then some (.date token)
  else if isFloat token then some (.float token)
  else (integerOf token).map .integer

/-- Reads a scalar that is no string. -/
def readScalar (text : List Char) : Option (Scalar × List Char) :=
  let (token, rest) := text.span isScalarChar
  match rest with
  | ' ' :: more =>
      let (time, beyond) := more.span isScalarChar
      if isDate token && isTimeOfDate time then
        some (.date (token ++ ' ' :: time), beyond)
      else (Scalar.ofToken token).map fun scalar => (scalar, rest)
  | _ => (Scalar.ofToken token).map fun scalar => (scalar, rest)

end Bytemark.Toml
