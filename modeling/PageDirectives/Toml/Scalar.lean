import PageDirectives.Toml.Basic

set_option autoImplicit false

/-! # Words of TOML

The values that are written as one word: truth values, numbers, dates and times of day.
`Value.ofWord?` reads such a word as a whole.
-/

namespace PageDirectives.Toml

/-! ## Numbers -/

/-- The value of a digit in bases up to sixteen. -/
def digit? (base : Nat) (c : Char) : Option Nat :=
  let n :=
    if c.isDigit then c.toNat - '0'.toNat
    else if 'a' ≤ c ∧ c ≤ 'f' then c.toNat - 'a'.toNat + 10
    else if 'A' ≤ c ∧ c ≤ 'F' then c.toNat - 'A'.toNat + 10
    else 16
  if n < base then some n else none

/-- The value of a row of digits. -/
def ofDigits? (base : Nat) (s : List Char) : Option Nat :=
  if s = [] then none else s.foldlM (fun n c => (digit? base c).map (base * n + ·)) 0

/-- Reads digits; a single underscore may stand between two of them. -/
def number? (base : Nat) (s : List Char) : Option Nat :=
  if ((s.splitOn '_').all (· ≠ [])) then ofDigits? base (s.filter (· != '_')) else none

/-- A number, and how many digits it was written with. -/
def decimal? (s : List Char) : Option (Nat × Nat) :=
  (number? 10 s).map fun n => (n, (s.filter (· != '_')).length)

/-- Reads a decimal number without needless zeros in front. -/
def whole? (s : List Char) : Option Nat :=
  if s.length ≠ 1 ∧ s.head? = some '0' then none else number? 10 s

/-- Takes the sign off a number. -/
def unsign (s : List Char) : Bool × List Char :=
  match s with
  | '+' :: r => (false, r)
  | '-' :: r => (true, r)
  | r => (false, r)

def withSign (negative : Bool) (n : Nat) : Int := if negative then -n else n

/-- The integers that are read: those of 128 bits, with or without sign. -/
def inRange (n : Int) : Bool :=
  -(Nat.pow 2 127 : Int) ≤ n && n < (Nat.pow 2 128 : Int)

def integer? (s : List Char) : Option Int :=
  let n := match s with
    | '0' :: 'x' :: r => (number? 16 r).map Int.ofNat
    | '0' :: 'o' :: r => (number? 8 r).map Int.ofNat
    | '0' :: 'b' :: r => (number? 2 r).map Int.ofNat
    | s => let (negative, r) := unsign s; (whole? r).map (withSign negative)
  n.filter inRange

/-- Whether a number `n` times a power of ten is too large for a float of 64 bits: the nearest
float would lie beyond the largest one. -/
def overflows (n : Nat) (power : Int) : Bool :=
  if n = 0 then false
  else if 400 < power then true
  else
    let limit := Nat.pow 2 1024 - Nat.pow 2 970
    if 0 ≤ power then limit ≤ n * Nat.pow 10 power.toNat
    else (-power).toNat < (toString n).length && limit * Nat.pow 10 (-power).toNat ≤ n

/-- Splits a number at its exponent. -/
def exponent? (s : List Char) : Option (List Char × Int) :=
  let isMark (c : Char) : Bool := c == 'e' || c == 'E'
  match s.dropWhile (!isMark ·) with
  | [] => some (s, 0)
  | _ :: r =>
    let (negative, digits) := unsign r
    (number? 10 digits).map fun n => (s.takeWhile (!isMark ·), withSign negative n)

/-- Whether a text is a number with a fraction or an exponent, and not too large. -/
def isFloat (s : List Char) : Bool :=
  let (_, body) := unsign s
  if body = "inf".toList ∨ body = "nan".toList then true
  else
    match exponent? body with
    | none => false
    | some (r, power) =>
      match r.splitOn '.' with
      | [front] => r != body && (whole? front).any fun n => !overflows n power
      | [front, fraction] =>
        match whole? front, decimal? fraction with
        | some n, some (m, places) => !overflows (n * Nat.pow 10 places + m) (power - places)
        | _, _ => false
      | _ => false

/-! ## Dates -/

/-- Reads a number of exactly `count` digits. -/
def digits? (count : Nat) (s : List Char) : Option Nat :=
  if s.length = count then ofDigits? 10 s else none

def isLeapYear (year : Nat) : Bool := year % 4 == 0 && (year % 100 != 0 || year % 400 == 0)

def daysIn (year month : Nat) : Nat :=
  if month = 2 then if isLeapYear year then 29 else 28
  else if month ∈ [4, 6, 9, 11] then 30 else 31

def isDate (s : List Char) : Bool :=
  match s.splitOn '-' with
  | [year, month, day] =>
    match digits? 4 year, digits? 2 month, digits? 2 day with
    | some y, some m, some d => 1 ≤ m && m ≤ 12 && 1 ≤ d && d ≤ daysIn y m
    | _, _, _ => false
  | _ => false

/-- Whether a text of two digits is a number up to `most`. -/
def isUpTo (most : Nat) (s : List Char) : Bool := (digits? 2 s).any (· ≤ most)

def isSecond (s : List Char) : Bool :=
  match s.splitOn '.' with
  | [second] => isUpTo 60 second
  | [second, fraction] => isUpTo 60 second && (ofDigits? 10 fraction).isSome
  | _ => false

/-- The seconds of a time of day may be left out. -/
def isTime (s : List Char) : Bool :=
  match s.splitOn ':' with
  | [hour, minute] => isUpTo 23 hour && isUpTo 59 minute
  | [hour, minute, second] => isUpTo 23 hour && isUpTo 59 minute && isSecond second
  | _ => false

def isOffset (s : List Char) : Bool :=
  match s.splitOn ':' with
  | [hour, minute] => isUpTo 23 hour && isUpTo 59 minute
  | _ => false

/-- A time of day that may have a time zone. -/
def isZonedTime (s : List Char) : Bool :=
  let isMark (c : Char) : Bool := c == '+' || c == '-'
  match s.getLast? with
  | some 'Z' | some 'z' => isTime s.dropLast
  | _ =>
    match s.dropWhile (!isMark ·) with
    | [] => isTime s
    | _ :: offset => isTime (s.takeWhile (!isMark ·)) && isOffset offset

/-- A date, a time of day, or a date with a time of day. -/
def isDatetime (s : List Char) : Bool :=
  isTime s || isDate s ||
    match s.drop 10 with
    | mark :: time =>
      (mark == 'T' || mark == 't' || mark == ' ') && isDate (s.take 10) && isZonedTime time
    | [] => false

/-! ## Words -/

/-- The value that is written as a word. -/
def Value.ofWord? (s : List Char) : Option Value :=
  if s = "true".toList then some (.boolean true)
  else if s = "false".toList then some (.boolean false)
  else
    match integer? s with
    | some n => some (.integer n)
    | none =>
      if isFloat s then some (.float (.ofList s))
      else if isDatetime s then some (.datetime (.ofList s))
      else none

end PageDirectives.Toml
