import ProxyAudit.Text.Hex
import ProxyAudit.Toml.Value

/-!
# Numbers and dates of TOML

Whole numbers, floating point numbers and dates all start with a digit or a sign. A date is tried
first, then a floating point number, then a whole number; each takes as much text as it can.

Numbers may be grouped by underscores between digits and have no leading zeros. Whole numbers must
fit 64 bits, and a positive number too large for a floating point number is no number at all.
-/

namespace ProxyAudit.Toml

-- ---------------------------------------------------------------------------
-- Digits
-- ---------------------------------------------------------------------------

/-- The digits of a run that may hold single underscores between digits, after a first digit. -/
def moreDigits (value? : Char → Option Nat) : List Char → List Nat × List Char
  | '_' :: c :: rest =>
    match value? c with
    | some d =>
      let (ds, after) := moreDigits value? rest
      (d :: ds, after)
    | none => ([], '_' :: c :: rest)
  | c :: rest =>
    match value? c with
    | some d =>
      let (ds, after) := moreDigits value? rest
      (d :: ds, after)
    | none => ([], c :: rest)
  | [] => ([], [])

/-- A run of digits with at least one of them. -/
def digits? (value? : Char → Option Nat) : List Char → Option (List Nat × List Char)
  | [] => none
  | c :: rest => do
    let d ← value? c
    let (ds, after) := moreDigits value? rest
    return (d :: ds, after)

/-- A run of decimal digits without a leading zero. -/
def plainDigits? (cs : List Char) : Option (List Nat × List Char) :=
  match cs with
  | '0' :: rest => some ([0], rest)
  | _ => digits? Decimal.value? cs

/-- The number that digits of a base stand for. -/
def ofDigits (base : Nat) (ds : List Nat) : Nat :=
  ds.foldl (base * · + ·) 0

/-- An optional sign: whether it is a minus, and what follows it. -/
def sign : List Char → Bool × List Char
  | '-' :: rest => (true, rest)
  | '+' :: rest => (false, rest)
  | cs => (false, cs)

-- ---------------------------------------------------------------------------
-- Whole numbers
-- ---------------------------------------------------------------------------

/-- The value of a digit below a base; letters may have either case. -/
def digitBelow? (base : Nat) (c : Char) : Option Nat :=
  (Hex.value? c).bind fun d => if d < base then some d else none

/-- A whole number that fits, as a value. -/
def integerValue? (n : Int) (rest : List Char) : Option (Value × List Char) :=
  if isInteger n then some (.integer n, rest) else none

/-- Reads a whole number: hexadecimal, octal or binary behind its mark, else decimal. -/
def readInteger? (cs : List Char) : Option (Value × List Char) := do
  let inBase (base : Nat) (rest : List Char) : Option (Value × List Char) := do
    let (ds, after) ← digits? (digitBelow? base) rest
    integerValue? (ofDigits base ds) after
  match cs with
  | '0' :: 'x' :: rest => inBase 16 rest
  | '0' :: 'o' :: rest => inBase 8 rest
  | '0' :: 'b' :: rest => inBase 2 rest
  | _ =>
    let (negative, rest) := sign cs
    let (ds, after) ← plainDigits? rest
    let n : Int := ofDigits 10 ds
    integerValue? (if negative then -n else n) after

-- ---------------------------------------------------------------------------
-- Floating point numbers
-- ---------------------------------------------------------------------------

/-- Reads the digits after a point; none if there is no point. -/
def readFraction? (cs : List Char) : Option (List Nat × List Char) :=
  match cs with
  | '.' :: rest => digits? Decimal.value? rest
  | _ => none

/-- Reads a power of ten; none if there is none. -/
def readExponent? (cs : List Char) : Option (Int × List Char) :=
  match cs with
  | c :: rest =>
    if c = 'e' ∨ c = 'E' then do
      let (negative, ds) := sign rest
      let (ds, after) ← digits? Decimal.value? ds
      let n : Int := ofDigits 10 ds
      return (if negative then -n else n, after)
    else none
  | [] => none

/-- The value of a floating point number, unless it is too large on the positive side. -/
def floatValue? (x : Binary64) (rest : List Char) : Option (Value × List Char) :=
  if x = .infinite false then none else some (.float x, rest)

def readDecimalFloat? (cs : List Char) : Option (Value × List Char) := do
  let (negative, rest) := sign cs
  let (whole, rest) ← plainDigits? rest
  match readFraction? rest with
  | some (fraction, rest) =>
    let (power, rest) := (readExponent? rest).getD (0, rest)
    floatValue? (.ofDecimal negative (whole ++ fraction) (power - fraction.length)) rest
  | none =>
    let (power, rest) ← readExponent? rest
    floatValue? (.ofDecimal negative whole power) rest

/-- Reads the two floating point values that are no finite numbers. -/
def readSpecialFloat? (cs : List Char) : Option (Value × List Char) :=
  match sign cs with
  | (negative, 'i' :: 'n' :: 'f' :: rest) => some (.float (.infinite negative), rest)
  | (_, 'n' :: 'a' :: 'n' :: rest) => some (.float .notANumber, rest)
  | _ => none

-- ---------------------------------------------------------------------------
-- Dates and times
-- ---------------------------------------------------------------------------

/-- Exactly so many decimal digits as a number. -/
def fixedDigits? : Nat → Nat → List Char → Option (Nat × List Char)
  | 0, n, cs => some (n, cs)
  | _ + 1, _, [] => none
  | width + 1, n, c :: rest => do
    let d ← Decimal.value? c
    fixedDigits? width (10 * n + d) rest

/-- Leap years have a day more in February. -/
def isLeapYear (year : Nat) : Bool :=
  year % 4 == 0 && (year % 100 != 0 || year % 400 == 0)

/-- The days of a month. -/
def daysIn (year month : Nat) : Nat :=
  match month with
  | 2 => if isLeapYear year then 29 else 28
  | 4 | 6 | 9 | 11 => 30
  | _ => 31

/-- The characters after a given one. -/
def expect? (c : Char) : List Char → Option (List Char)
  | d :: rest => if d = c then some rest else none
  | [] => none

/-- The characters after a calendar date. -/
def skipDate? (cs : List Char) : Option (List Char) := do
  let (year, rest) ← fixedDigits? 4 0 cs
  let (month, rest) ← fixedDigits? 2 0 (← expect? '-' rest)
  let (day, rest) ← fixedDigits? 2 0 (← expect? '-' rest)
  if month < 1 ∨ 12 < month ∨ day < 1 ∨ daysIn year month < day then none
  some rest

/-- The characters after the decimals of a second. -/
def skipDecimals (cs : List Char) : List Char :=
  match cs with
  | '.' :: c :: rest => if Decimal.isDigit c then rest.dropWhile Decimal.isDigit else cs
  | _ => cs

/-- The characters after a time of day, which may be a leap second. -/
def skipTime? (cs : List Char) : Option (List Char) := do
  let (hour, rest) ← fixedDigits? 2 0 cs
  let (minute, rest) ← fixedDigits? 2 0 (← expect? ':' rest)
  let (second, rest) ← fixedDigits? 2 0 (← expect? ':' rest)
  if 23 < hour ∨ 59 < minute ∨ 60 < second then none
  some (skipDecimals rest)

/-- The characters after a distance from universal time. -/
def skipOffset? (cs : List Char) : Option (List Char) :=
  match cs with
  | [] => none
  | c :: rest =>
    if c = 'Z' ∨ c = 'z' then some rest
    else if c = '+' ∨ c = '-' then do
      let (hour, rest) ← fixedDigits? 2 0 rest
      let (minute, rest) ← fixedDigits? 2 0 (← expect? ':' rest)
      if 23 < hour ∨ 59 < minute then none
      some rest
    else none

/-- The characters after the time of day that may follow a date, with its offset. -/
def skipTimeOfDate? (cs : List Char) : Option (List Char) :=
  match cs with
  | [] => none
  | c :: rest =>
    if c = 'T' ∨ c = 't' ∨ c = ' ' then (skipTime? rest).map fun after =>
      (skipOffset? after).getD after
    else none

/-- The characters after a date, a date with a time, or a time. -/
def skipDateTime? (cs : List Char) : Option (List Char) :=
  match skipDate? cs with
  | some rest => some ((skipTimeOfDate? rest).getD rest)
  | none => skipTime? cs

def readDateTime? (cs : List Char) : Option (Value × List Char) := do
  let rest ← skipDateTime? cs
  return (.dateTime (String.ofList (cs.take (cs.length - rest.length))), rest)

/-- Reads whatever starts with a digit or a sign. -/
def readNumber? (cs : List Char) : Option (Value × List Char) :=
  readDateTime? cs <|> readDecimalFloat? cs <|> readSpecialFloat? cs <|> readInteger? cs

end ProxyAudit.Toml
