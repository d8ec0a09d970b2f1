import DeclScribe.Constant.Decode

/-!
# Strings, keys and blanks of TOML

Each reader takes the text at the place where its item starts and returns the item with the text
behind it, or nothing if the item is malformed. Control characters other than the tab stand nowhere,
and a carriage return only before a line feed.
-/

set_option autoImplicit false

namespace DeclScribe.Toml

/-- The characters that separate items on a line. -/
def isSpace (c : Char) : Bool :=
  c == ' ' || c == '\t'

/-- Text behind the spaces at its front. -/
def skipSpaces (text : List Char) : List Char :=
  text.dropWhile isSpace

/-- The characters that can stand in strings and comments. -/
def isPlain (c : Char) : Bool :=
  c == '\t' || (0x20 ≤ c.toNat && c.toNat != 0x7f)

/-- Text behind a line break at its front. -/
def lineBreak? : List Char → Option (List Char)
  | '\n' :: rest => some rest
  | '\r' :: '\n' :: rest => some rest
  | _ => none

/-- Text behind a comment at its front, if there is one. -/
def skipComment : List Char → List Char
  | '#' :: rest => rest.dropWhile isPlain
  | text => text

/-- Text behind the rest of a line, which holds nothing but spaces and a comment. -/
def lineEnd? (text : List Char) : Option (List Char) :=
  match skipComment (skipSpaces text) with
  | [] => some []
  | rest => lineBreak? rest

/-- Text behind any number of spaces, comments and line breaks, at most `fuel` lines of them. -/
def skipLines : Nat → List Char → List Char
  | 0, text => text
  | fuel + 1, text =>
    let rest := skipComment (skipSpaces text)
    match lineBreak? rest with
    | some next => skipLines fuel next
    | none => rest

/-- Text behind any number of spaces, comments and line breaks. -/
def skipBlank (text : List Char) : List Char :=
  skipLines text.length text

/-- The character of an escape sequence that is one letter. -/
def escapeLetter? : Char → Option Char
  | 'b' => some '\x08'
  | 't' => some '\t'
  | 'n' => some '\n'
  | 'f' => some '\x0c'
  | 'r' => some '\r'
  | 'e' => some '\x1b'
  | '"' => some '"'
  | '\\' => some '\\'
  | _ => none

/-- How many hexadecimal digits follow an escape letter. -/
def escapeDigits? : Char → Option Nat
  | 'x' => some 2
  | 'u' => some 4
  | 'U' => some 8
  | _ => none

/-- The character of the escape sequence behind a backslash. -/
def escape? : List Char → Option (Char × List Char)
  | [] => none
  | letter :: rest =>
    match escapeLetter? letter, escapeDigits? letter with
    | some c, _ => some (c, rest)
    | none, some count =>
      let digits := rest.take count
      if digits.length < count then none
      else ((Number.value? 16 digits).bind Decode.scalar?).map fun c => (c, rest.drop count)
    | none, none => none

/-- A basic string behind its opening quote. -/
def basicTail : Nat → List Char → Option (List Char × List Char)
  | 0, _ => none
  | _, [] => none
  | fuel + 1, c :: rest =>
    if c = '"' then some ([], rest)
    else if c = '\\' then do
      let (value, behind) ← escape? rest
      let (more, final) ← basicTail fuel behind
      return (value :: more, final)
    else if isPlain c then do
      let (more, final) ← basicTail fuel rest
      return (c :: more, final)
    else none

/-- A literal string behind its opening apostrophe. -/
def literalTail : List Char → Option (List Char × List Char)
  | [] => none
  | c :: rest =>
    if c = '\'' then some ([], rest)
    else if isPlain c then (literalTail rest).map fun (more, final) => (c :: more, final)
    else none

/-- How a multi-line string closes at a run of its delimiter: from three on it closes, and up to two
more belong to the text. -/
def closing? (delimiter : Char) (text : List Char) : Option Nat :=
  let run := (text.take 5).takeWhile (· == delimiter)
  if 3 ≤ run.length then some (run.length - 3) else none

/-- Text behind the line that a backslash at its end continues: the rest of that line and every
blank behind it are skipped. -/
def continuation? (text : List Char) : Option (List Char) :=
  (lineBreak? (skipSpaces text)).map (go text.length)
where
  /-- Skips spaces and line breaks, at most `fuel` lines of them. -/
  go : Nat → List Char → List Char
    | 0, text => text
    | fuel + 1, text =>
      let rest := skipSpaces text
      match lineBreak? rest with
      | some next => go fuel next
      | none => rest

/-- A multi-line basic string behind its opening quotes. -/
def multilineBasicTail : Nat → List Char → Option (List Char × List Char)
  | 0, _ => none
  | _, [] => none
  | fuel + 1, c :: rest =>
    match closing? '"' (c :: rest) with
    | some extra => some (List.replicate extra '"', rest.drop (extra + 2))
    | none =>
      if c = '\\' then
        match continuation? rest with
        | some next => multilineBasicTail fuel next
        | none => do
          let (value, behind) ← escape? rest
          let (more, final) ← multilineBasicTail fuel behind
          return (value :: more, final)
      else if isPlain c || (lineBreak? (c :: rest)).isSome then do
        let (more, final) ← multilineBasicTail fuel rest
        return (c :: more, final)
      else none

/-- A multi-line literal string behind its opening apostrophes. -/
def multilineLiteralTail : List Char → Option (List Char × List Char)
  | [] => none
  | c :: rest =>
    match closing? '\'' (c :: rest) with
    | some extra => some (List.replicate extra '\'', rest.drop (extra + 2))
    | none =>
      if isPlain c || (lineBreak? (c :: rest)).isSome then
        (multilineLiteralTail rest).map fun (more, final) => (c :: more, final)
      else none

/-- Text without a line break at its front. -/
def dropLineBreak (text : List Char) : List Char :=
  (lineBreak? text).getD text

/-- A string in any of the four forms. -/
def string? (text : List Char) : Option (List Char × List Char) :=
  match text with
  | '"' :: '"' :: '"' :: rest => multilineBasicTail (rest.length + 1) (dropLineBreak rest)
  | '\'' :: '\'' :: '\'' :: rest => multilineLiteralTail (dropLineBreak rest)
  | '"' :: rest => basicTail (rest.length + 1) rest
  | '\'' :: rest => literalTail rest
  | _ => none

/-- The characters of keys without quotes. -/
def isKeyChar (c : Char) : Bool :=
  c.isAlphanum || c == '_' || c == '-'

/-- One part of a key: a bare word or a string on one line. -/
def keyPart? (text : List Char) : Option (String × List Char) :=
  match text with
  | '"' :: rest =>
    (basicTail (rest.length + 1) rest).map fun (key, behind) => (String.ofList key, behind)
  | '\'' :: rest => (literalTail rest).map fun (key, behind) => (String.ofList key, behind)
  | _ =>
    let word := text.takeWhile isKeyChar
    if word.isEmpty then none else some (String.ofList word, text.drop word.length)

/-- A dotted key: parts with points between them, at most `fuel` parts. -/
def keyParts? : Nat → List Char → Option (List String × List Char)
  | 0, _ => none
  | fuel + 1, text => do
    let (part, behind) ← keyPart? text
    match skipSpaces behind with
    | '.' :: rest =>
      let (more, final) ← keyParts? fuel (skipSpaces rest)
      return (part :: more, final)
    | rest => return ([part], rest)

/-- A dotted key and the text behind the spaces that follow it. -/
def key? (text : List Char) : Option (List String × List Char) :=
  keyParts? (text.length + 1) text

end DeclScribe.Toml
