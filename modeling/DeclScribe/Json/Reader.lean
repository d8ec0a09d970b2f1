import DeclScribe.Constant.Decode
import DeclScribe.Json

/-!
# Reading JSON

A number is an integer when it is written without fraction and exponent and 64 bits hold it, and a
floating-point number otherwise; the integer zero has no sign, so a negative zero is a
floating-point number. Each reader takes the text where its item starts and returns the item with
the text behind it.
-/

set_option autoImplicit false

namespace DeclScribe.Json

/-- Text behind the white space at its front. -/
def skipBlank (text : List Char) : List Char :=
  text.dropWhile fun c => c == ' ' || c == '\n' || c == '\r' || c == '\t'

/-- The character of an escape sequence that is one letter. -/
def escapeLetter? : Char → Option Char
  | '"' => some '"'
  | '\\' => some '\\'
  | '/' => some '/'
  | 'b' => some '\x08'
  | 'f' => some '\x0c'
  | 'n' => some '\n'
  | 'r' => some '\r'
  | 't' => some '\t'
  | _ => none

/-- The number that four hexadecimal digits at the front of a text stand for. -/
def unit? (text : List Char) : Option (Nat × List Char) :=
  if (text.take 4).length < 4 then none
  else (Number.value? 16 (text.take 4)).map fun n => (n, text.drop 4)

/-- The character of the escape sequence behind a backslash. A character beyond the first plane is
written as a pair of units. -/
def escape? : List Char → Option (Char × List Char)
  | 'u' :: rest => do
    let (high, rest) ← unit? rest
    if high < 0xd800 ∨ 0xdbff < high then (Decode.scalar? high).map fun c => (c, rest)
    else
      match rest with
      | '\\' :: 'u' :: more =>
        let (low, more) ← unit? more
        if low < 0xdc00 ∨ 0xdfff < low then none
        else some (Char.ofNat (0x10000 + (high - 0xd800) * 0x400 + (low - 0xdc00)), more)
      | _ => none
  | c :: rest => (escapeLetter? c).map fun value => (value, rest)
  | [] => none

/-- A string behind its opening quote, of at most `fuel` characters. -/
def stringTail? : Nat → List Char → Option (List Char × List Char)
  | 0, _ => none
  | _, [] => none
  | fuel + 1, c :: rest =>
    if c = '"' then some ([], rest)
    else if c = '\\' then do
      let (value, behind) ← escape? rest
      let (more, final) ← stringTail? fuel behind
      return (value :: more, final)
    else if c.toNat < 0x20 then none
    else do
      let (more, final) ← stringTail? fuel rest
      return (c :: more, final)

/-- A string behind its opening quote. -/
def string? (text : List Char) : Option (String × List Char) :=
  (stringTail? (text.length + 1) text).map fun (body, rest) => (String.ofList body, rest)

def number? (text : List Char) : Option Json :=
  let negative := text.head? == some '-'
  let body := if negative then text.drop 1 else text
  match Number.value? 10 body with
  | some n =>
    if negative && n != 0 && n ≤ Number.twoPow 63 then some (.int (-(n : Int)))
    else if !negative && n < Number.twoPow 64 then some (.int n)
    else some (.float (.ofDecimal negative n 0))
  | none => (Number.binary64? negative body).map .float

/-- The characters of numbers and of the words for null and the truth values. -/
def isWordChar (c : Char) : Bool :=
  c.isAlphanum || c == '+' || c == '-' || c == '.'

/-- The value that a word stands for. -/
def word? (word : List Char) : Option Json :=
  if word = "null".toList then some .null
  else if word = "true".toList then some (.bool true)
  else if word = "false".toList then some (.bool false)
  else number? word

mutual

/-- A value. Each step of the reading uses up one unit of fuel. -/
def value? (fuel : Nat) (text : List Char) : Option (Json × List Char) :=
  match fuel with
  | 0 => none
  | fuel + 1 =>
    match skipBlank text with
    | '"' :: rest => (string? rest).map fun (s, behind) => (.string s, behind)
    | '[' :: rest =>
      match skipBlank rest with
      | ']' :: behind => some (.array [], behind)
      | rest => (items? fuel rest).map fun (items, behind) => (.array items, behind)
    | '\x7b' :: rest =>
      match skipBlank rest with
      | '\x7d' :: behind => some (.object [], behind)
      | rest => (fields? fuel rest).map fun (fields, behind) => (.object fields, behind)
    | rest =>
      let word := rest.takeWhile isWordChar
      (word? word).map fun value => (value, rest.drop word.length)

/-- The items of an array up to its closing bracket. -/
def items? (fuel : Nat) (text : List Char) : Option (List Json × List Char) :=
  match fuel with
  | 0 => none
  | fuel + 1 => do
    let (item, behind) ← value? fuel text
    match skipBlank behind with
    | ',' :: rest =>
      let (more, final) ← items? fuel rest
      return (item :: more, final)
    | ']' :: rest => return ([item], rest)
    | _ => none

/-- The fields of an object up to its closing brace. -/
def fields? (fuel : Nat) (text : List Char) : Option (List (String × Json) × List Char) :=
  match fuel with
  | 0 => none
  | fuel + 1 =>
    match skipBlank text with
    | '"' :: rest => do
      let (key, behind) ← string? rest
      match skipBlank behind with
      | ':' :: rest =>
        let (item, behind) ← value? fuel rest
        match skipBlank behind with
        | ',' :: rest =>
          let (more, final) ← fields? fuel rest
          return ((key, item) :: more, final)
        | '\x7d' :: rest => return ([(key, item)], rest)
        | _ => none
      | _ => none
    | _ => none

end

def parse? (text : String) : Option Json :=
  match value? (text.length + 1) text.toList with
  | some (value, rest) => if (skipBlank rest).isEmpty then some value else none
  | none => none

end DeclScribe.Json
