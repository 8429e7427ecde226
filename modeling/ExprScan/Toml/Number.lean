import ExprScan.Toml.Text

/-!
# Numbers and dates

Only their form matters, since no setting is a number or a date: an integer must fit into 64 bits,
a number with a point or an exponent must be finite, and a date must exist.
-/

namespace ExprScan.Toml

open Reader

/-- A decimal digit. -/
def isDecimal (c : Char) : Bool := '0' ≤ c && c ≤ '9'

/-! ### Numbers -/

/-- Digits with single underscores between them. -/
def digits (isDigit : Char → Bool) : Reader (List Char) := do
  let first ← satisfy isDigit
  let others ← many do
    let _ ← attempt (char '_')
    satisfy isDigit
  return first :: others

/-- A sign. -/
def sign : Reader Char := satisfy fun c => c == '+' || c == '-'

/-- Digits without a zero in front. -/
def wholeDigits : Reader (List Char) := do
  if (← peek?) == some '0' then
    char '0'
    return ['0']
  else
    digits isDecimal

/-- An integer in a base other than ten, after the mark of the base. -/
def basedInteger : Reader Unit := do
  char '0'
  let mark ← satisfy fun c => c == 'x' || c == 'o' || c == 'b'
  let base := if mark == 'x' then 16 else if mark == 'o' then 8 else 2
  let ds ← digits (isDigitOf base)
  if numberOf base ds < Nat.pow 2 63 then return () else failure

/-- Whether a decimal number is too large for a binary one of double precision: it is at least the
largest such number and half the distance to the next one. -/
def isTooLarge (mantissa : Nat) (exponent : Int) : Bool :=
  let magnitude : Int := (Nat.toDigits 10 mantissa).length + exponent
  let limit := Nat.pow 2 1024 - Nat.pow 2 970
  if mantissa = 0 ∨ magnitude < 309 then false
  else if 309 < magnitude then true
  else if 0 ≤ exponent then limit ≤ mantissa * Nat.pow 10 exponent.toNat
  else limit * Nat.pow 10 (-exponent).toNat ≤ mantissa

/-- The exponent of a number. -/
def exponent : Reader Int := do
  let _ ← satisfy fun c => c == 'e' || c == 'E'
  let s ← attempt sign
  let n := numberOf 10 (← digits isDecimal)
  return if s == some '-' then -(n : Int) else n

/-- The digits after the point. -/
def fraction : Reader (List Char) := do
  char '.'
  digits isDecimal

/-- A number with a point, an exponent or both. -/
def decimalNumber : Reader Unit := do
  let s ← attempt sign
  let whole ← wholeDigits
  let part ← attempt fraction
  let power ← attempt exponent
  if part.isNone && power.isNone then failure
  let below := part.getD []
  if s != some '-' && isTooLarge (numberOf 10 (whole ++ below)) (power.getD 0 - below.length) then
    failure

/-- A number that is infinite or none. -/
def specialNumber : Reader Unit := do
  let _ ← attempt sign
  either (chars ['i', 'n', 'f']) (chars ['n', 'a', 'n'])

/-- An integer in base ten. -/
def wholeNumber : Reader Unit := do
  let s ← attempt sign
  let n := numberOf 10 (← wholeDigits)
  if n < Nat.pow 2 63 || (s == some '-' && n == Nat.pow 2 63) then return () else failure

/-- A number. -/
def number : Reader Unit :=
  either decimalNumber (either specialNumber (either basedInteger wholeNumber))

/-! ### Dates -/

/-- A number of exactly `n` digits between two bounds. -/
def fixedDigits (n low high : Nat) : Reader Nat := do
  let value := numberOf 10 (← exactly isDecimal n)
  if low ≤ value ∧ value ≤ high then return value else failure

/-- The number of days of a month. -/
def daysOf (year month : Nat) : Nat :=
  if month = 2 then
    if year % 4 = 0 ∧ (year % 100 ≠ 0 ∨ year % 400 = 0) then 29 else 28
  else if month = 4 ∨ month = 6 ∨ month = 9 ∨ month = 11 then 30
  else 31

/-- A day of the calendar. -/
def day : Reader Unit := do
  let year ← fixedDigits 4 0 9999
  char '-'
  let month ← fixedDigits 2 1 12
  char '-'
  let _ ← fixedDigits 2 1 (daysOf year month)

/-- A time of the day. -/
def time : Reader Unit := do
  let _ ← fixedDigits 2 0 23
  char ':'
  let _ ← fixedDigits 2 0 59
  char ':'
  let _ ← fixedDigits 2 0 60
  let _ ← attempt do
    char '.'
    run1 isDecimal

/-- The distance from universal time. -/
def zone : Reader Unit := do
  either (do let _ ← satisfy fun c => c == 'Z' || c == 'z') do
    let _ ← sign
    let _ ← fixedDigits 2 0 23
    char ':'
    let _ ← fixedDigits 2 0 59

/-- A day, a time, or both, the latter perhaps with a zone. -/
def date : Reader Unit :=
  either
    (do
      day
      let _ ← attempt do
        let _ ← satisfy fun c => c == 'T' || c == 't' || c == ' '
        time
        attempt zone)
    time

end ExprScan.Toml
