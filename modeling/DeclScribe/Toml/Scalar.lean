import DeclScribe.Number.IntRange
import DeclScribe.Number.Reading
import DeclScribe.Toml.Value

/-!
# Numbers, truth values, dates and times of TOML

The values that are written without delimiters. Underscores stand between digits only, a decimal
number has no leading zero, and a number that 64 bits cannot hold is refused. Dates and times are
checked for their ranges, leap years included.
-/

set_option autoImplicit false

namespace DeclScribe.Toml.Scalar

/-- Whether every underscore of a text has a character other than an underscore on both sides. -/
def separates : List Char → Bool
  | [] => true
  | ['_'] => false
  | '_' :: '_' :: _ => false
  | _ :: rest => separates rest

/-- A run of digits without the underscores between them. -/
def ungrouped? (text : List Char) : Option (List Char) :=
  if text.isEmpty || text.head? == some '_' || !separates text then none
  else some (text.filter (· != '_'))

/-- Whether a run of digits starts with a zero that it does not need. -/
def hasLeadingZero : List Char → Bool
  | '0' :: _ :: _ => true
  | _ => false

/-- The digits of a decimal number before its point. -/
def whole? (text : List Char) : Option (List Char) :=
  match ungrouped? text with
  | some digits => if hasLeadingZero digits then none else some digits
  | none => none

/-- Whether a text has a minus sign, and the text behind its sign. -/
def sign : List Char → Bool × List Char
  | '-' :: rest => (true, rest)
  | '+' :: rest => (false, rest)
  | text => (false, text)

/-- An integer in any base, without regard to its range. -/
def integer? (text : List Char) : Option Int :=
  match text with
  | '0' :: 'x' :: rest => (ungrouped? rest).bind (Number.value? 16) |>.map Int.ofNat
  | '0' :: 'o' :: rest => (ungrouped? rest).bind (Number.value? 8) |>.map Int.ofNat
  | '0' :: 'b' :: rest => (ungrouped? rest).bind (Number.value? 2) |>.map Int.ofNat
  | _ =>
    let (negative, rest) := sign text
    (whole? rest).bind (Number.value? 10) |>.map fun n => if negative then -(n : Int) else n

/-- Whether 64 bits hold an integer. -/
def fits (value : Int) : Bool :=
  (IntRange.signed 64).holds value

/-- Whether a character belongs to a run of digits. -/
def inRun (c : Char) : Bool :=
  Number.isDecimalDigit c || c == '_'

/-- The exponent at the end of a float, without underscores. -/
def exponentText? : List Char → Option (List Char)
  | [] => some []
  | mark :: rest =>
    if mark = 'e' ∨ mark = 'E' then
      let signs := rest.takeWhile fun c => c == '+' || c == '-'
      if 1 < signs.length then none
      else (ungrouped? (rest.drop signs.length)).map fun digits => mark :: (signs ++ digits)
    else none

/-- A float without sign, underscores taken out. It has a fraction, an exponent or both. -/
def floatText? (text : List Char) : Option (List Char) :=
  let wholeRun := text.takeWhile inRun
  let behind := text.drop wholeRun.length
  match whole? wholeRun, behind with
  | none, _ => none
  | some _, [] => none
  | some digits, '.' :: rest =>
    let fractionRun := rest.takeWhile inRun
    match ungrouped? fractionRun, exponentText? (rest.drop fractionRun.length) with
    | some fraction, some exponent => some (digits ++ '.' :: (fraction ++ exponent))
    | _, _ => none
  | some digits, _ => (exponentText? behind).map (digits ++ ·)

/-- A float. A decimal that no finite float is near to is refused. -/
def float? (text : List Char) : Option Binary64 :=
  let (negative, rest) := sign text
  if rest = ['i', 'n', 'f'] then some (if negative then Binary64.infinity.negate else .infinity)
  else if rest = ['n', 'a', 'n'] then some (if negative then Binary64.nan.negate else .nan)
  else
    match (floatText? rest).bind (Number.binary64? negative) with
    | some value => if value.isInfinite then none else some value
    | none => none

/-- A number of exactly `width` decimal digits within a range, and the text behind it. -/
def field? (width least greatest : Nat) (text : List Char) : Option (Nat × List Char) :=
  let digits := text.take width
  if digits.length < width then none
  else
    match Number.value? 10 digits with
    | some n => if least ≤ n ∧ n ≤ greatest then some (n, text.drop width) else none
    | none => none

/-- Text behind a given character at its front. -/
def behind? (mark : Char) : List Char → Option (List Char)
  | c :: rest => if c = mark then some rest else none
  | [] => none

/-- Whether a year has a 29th of February. -/
def isLeapYear (year : Nat) : Bool :=
  year % 4 == 0 && (year % 100 != 0 || year % 400 == 0)

def daysIn (year month : Nat) : Nat :=
  if month = 2 then if isLeapYear year then 29 else 28
  else if month = 4 ∨ month = 6 ∨ month = 9 ∨ month = 11 then 30
  else 31

/-- Text behind a date. -/
def date? (text : List Char) : Option (List Char) := do
  let (year, text) ← field? 4 0 9999 text
  let text ← behind? '-' text
  let (month, text) ← field? 2 1 12 text
  let text ← behind? '-' text
  let (_, text) ← field? 2 1 (daysIn year month) text
  return text

/-- Text behind the seconds of a time, which may be left out. -/
def seconds? : List Char → Option (List Char)
  | ':' :: rest => do
    let (_, rest) ← field? 2 0 60 rest
    match rest with
    | '.' :: fraction =>
      let digits := fraction.takeWhile Number.isDecimalDigit
      if digits.isEmpty then none else some (fraction.drop digits.length)
    | _ => some rest
  | text => some text

/-- Text behind a time. -/
def time? (text : List Char) : Option (List Char) := do
  let (_, text) ← field? 2 0 23 text
  let text ← behind? ':' text
  let (_, text) ← field? 2 0 59 text
  seconds? text

/-- Whether a text is nothing or the distance of a time from universal time. -/
def isOffset : List Char → Bool
  | [] => true
  | ['Z'] => true
  | ['z'] => true
  | mark :: text =>
    (mark == '+' || mark == '-') &&
      ((do
        let (hours, text) ← field? 2 0 24 text
        let text ← behind? ':' text
        let (minutes, text) ← field? 2 0 59 text
        return text.isEmpty && hours * 60 + minutes ≤ 24 * 60) : Option Bool) == some true

/-- Whether a text is a date, a time or both. -/
def isDatetime (text : List Char) : Bool :=
  match date? text with
  | some [] => true
  | some (mark :: rest) =>
    (mark == 'T' || mark == 't' || mark == ' ') &&
      match time? rest with
      | some offset => isOffset offset
      | none => false
  | none => time? text == some []

/-- The characters of values without delimiters. -/
def isChar (c : Char) : Bool :=
  c.isAlphanum || c == '_' || c == '+' || c == '-' || c == '.' || c == ':'

/-- The text of a value without delimiters at the front of a text. A space belongs to it only
between a date and a time. -/
def cut (text : List Char) : List Char :=
  let word := text.takeWhile isChar
  match text.drop word.length with
  | ' ' :: c :: rest =>
    if Number.isDecimalDigit c && date? word == some [] then
      word ++ ' ' :: (c :: rest).takeWhile isChar
    else word
  | _ => word

/-- The value that a text without delimiters denotes. -/
def value? (text : List Char) : Option Value :=
  if text = "true".toList then some (.boolean true)
  else if text = "false".toList then some (.boolean false)
  else if isDatetime text then some (.datetime (String.ofList text))
  else
    match integer? text with
    | some value => if fits value then some (.integer value) else none
    | none => (float? text).map .float

end DeclScribe.Toml.Scalar
