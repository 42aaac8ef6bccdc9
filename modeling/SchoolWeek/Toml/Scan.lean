import SchoolWeek.Text.Decimal

/-! The small parts of a TOML document: blanks, comments, the four kinds of strings
and keys. Each scan takes what it knows off the front of a text and says what is left,
or finds a fault. -/
namespace SchoolWeek.Toml

abbrev Scan (α : Type) := List Char → Option (α × List Char)

namespace Scan

def isBlank (character : Char) : Bool := character = ' ' || character = '\t'

def skipBlanks (text : List Char) : List Char := text.dropWhile isBlank

/-- Anything but control characters; a tab is none. -/
def isPlain (character : Char) : Bool :=
  character = '\t' || (32 ≤ character.toNat && character.toNat != 127)

/-- The end of a line, or of the text. -/
def lineEnd? : List Char → Option (List Char)
  | [] => some []
  | '\n' :: text => some text
  | '\r' :: '\n' :: text => some text
  | _ => none

def skipComment : List Char → List Char
  | '#' :: text => text.dropWhile isPlain
  | text => text

/-- What may stand after a value or a header: blanks, a comment and the end of the line. -/
def restOfLine? (text : List Char) : Option (List Char) := lineEnd? (skipComment (skipBlanks text))

/-- Blanks, comments and ends of lines. A comment must end with its line. -/
def skipLines (isComment : Bool) : List Char → Option (List Char)
  | [] => if isComment then none else some []
  | '\n' :: text => skipLines false text
  | '\r' :: '\n' :: text => skipLines false text
  | character :: text =>
    if isComment then if isPlain character then skipLines true text else none
    else if isBlank character then skipLines false text
    else if character = '#' then skipLines true text
    else some (character :: text)

/-- The character with a hexadecimal code, unless the code is that of a surrogate or too large. -/
def ofCode? (digits : List Char) : Option Char := do
  let code ← digits.foldlM (Text.appendDigit? 16) 0
  if code.isValidChar then return Char.ofNat code else none

/-- The character that a letter stands for after a backslash. -/
def ofEscape? : Char → Option Char
  | 'b' => some '\x08'
  | 't' => some '\t'
  | 'n' => some '\n'
  | 'f' => some '\x0c'
  | 'r' => some '\r'
  | '\x22' => some '\x22'
  | '\\' => some '\\'
  | _ => none

def push (character : Char) (result : List Char × List Char) : List Char × List Char :=
  (character :: result.1, result.2)

/-- A one-line string with escapes, after its opening quote. -/
def basic : List Char → Option (List Char × List Char)
  | '\x22' :: text => some ([], text)
  | '\\' :: 'u' :: a :: b :: c :: d :: text => do
    let character ← ofCode? [a, b, c, d]
    return push character (← basic text)
  | '\\' :: 'U' :: a :: b :: c :: d :: e :: f :: g :: h :: text => do
    let character ← ofCode? [a, b, c, d, e, f, g, h]
    return push character (← basic text)
  | '\\' :: letter :: text => do
    let character ← ofEscape? letter
    return push character (← basic text)
  | character :: text =>
    if isPlain character then (basic text).map (push character) else none
  | [] => none

/-- A one-line string without escapes, after its opening quote. -/
def literal : List Char → Option (List Char × List Char)
  | '\x27' :: text => some ([], text)
  | character :: text =>
    if isPlain character then (literal text).map (push character) else none
  | [] => none

/-- The end of a string of several lines: three quotes, before which one or two may
stand that belong to it. -/
def closing? (quote : Char) : List Char → Option (List Char × List Char)
  | a :: b :: c :: d :: e :: text =>
    if a = quote ∧ b = quote ∧ c = quote then
      if d = quote then
        if e = quote then some ([quote, quote], text) else some ([quote], e :: text)
      else some ([], d :: e :: text)
    else none
  | [a, b, c, d] =>
    if a = quote ∧ b = quote ∧ c = quote then
      if d = quote then some ([quote], []) else some ([], [d])
    else none
  | [a, b, c] => if a = quote ∧ b = quote ∧ c = quote then some ([], []) else none
  | _ => none

/-- Only blanks stand before the end of the line. -/
def isLineOver (text : List Char) : Bool :=
  match skipBlanks text with
  | '\n' :: _ => true
  | '\r' :: '\n' :: _ => true
  | _ => false

/-- A string of several lines with escapes, after its opening quotes. A backslash at the
end of a line swallows all blanks and ends of lines up to the next character. -/
def basicLines (swallowing : Bool) (text : List Char) : Option (List Char × List Char) :=
  match closing? '\x22' text with
  | some result => some result
  | none =>
    match text with
    | [] => none
    | '\n' :: text =>
      if swallowing then basicLines true text else (basicLines false text).map (push '\n')
    | '\r' :: '\n' :: text =>
      if swallowing then basicLines true text else (basicLines false text).map (push '\n')
    | '\\' :: 'u' :: a :: b :: c :: d :: text => do
      let character ← ofCode? [a, b, c, d]
      return push character (← basicLines false text)
    | '\\' :: 'U' :: a :: b :: c :: d :: e :: f :: g :: h :: text => do
      let character ← ofCode? [a, b, c, d, e, f, g, h]
      return push character (← basicLines false text)
    | '\\' :: letter :: text =>
      if isLineOver (letter :: text) then basicLines true (letter :: text)
      else do
        let character ← ofEscape? letter
        return push character (← basicLines false text)
    | character :: text =>
      if swallowing && isBlank character then basicLines true text
      else if isPlain character then (basicLines false text).map (push character)
      else none

/-- A string of several lines without escapes, after its opening quotes. -/
def literalLines (text : List Char) : Option (List Char × List Char) :=
  match closing? '\x27' text with
  | some result => some result
  | none =>
    match text with
    | [] => none
    | '\n' :: text => (literalLines text).map (push '\n')
    | '\r' :: '\n' :: text => (literalLines text).map (push '\n')
    | character :: text =>
      if isPlain character then (literalLines text).map (push character) else none

/-- The end of the line directly after the opening quotes is no part of the string. -/
def dropFirstLineEnd : List Char → List Char
  | '\n' :: text => text
  | '\r' :: '\n' :: text => text
  | text => text

/-- Letters, digits, hyphens and underscores need no quotes in a key. -/
def isBare (character : Char) : Bool :=
  character.isAlphanum || character = '-' || character = '_'

/-- One part of a key. -/
def keyPart : List Char → Option (String × List Char)
  | '\x22' :: text => (basic text).map fun (key, rest) => (String.ofList key, rest)
  | '\x27' :: text => (literal text).map fun (key, rest) => (String.ofList key, rest)
  | text =>
    let (key, rest) := text.span isBare
    if key.isEmpty then none else some (String.ofList key, rest)

/-- The parts of a key, of which there may be at most as many as given, with dots
between them. Blanks may stand around each part. -/
def key : Nat → List Char → Option (List String × List Char)
  | 0, _ => none
  | parts + 1, text => do
    let (part, text) ← keyPart (skipBlanks text)
    match skipBlanks text with
    | '.' :: text =>
      let (path, text) ← key parts text
      return (part :: path, text)
    | text => return ([part], text)

end Scan
end SchoolWeek.Toml
