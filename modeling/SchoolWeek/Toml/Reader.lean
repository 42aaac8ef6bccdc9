import SchoolWeek.Toml.Scalar
import SchoolWeek.Toml.Scan
import SchoolWeek.Toml.Tree

/-! Reading a TOML document: lines that are blank, a comment, a header or a key with
its value. -/
namespace SchoolWeek.Toml

namespace Scan

/-- The most parts a key may have. -/
def keyParts : Nat := 79

/-- How deep arrays and tables may be nested inside each other within a value. -/
def nesting : Nat := 79

/-- A number, a date or another single word. A blank may stand between a day and a time. -/
def scalar (text : List Char) : Option (Node × List Char) :=
  let (word, rest) := text.span Scalar.isWordCharacter
  match rest with
  | ' ' :: digit :: later =>
    if Scalar.isDate word && digit.isDigit then
      let (time, rest) := (digit :: later).span Scalar.isWordCharacter
      if Scalar.isTimeWithOffset time then some (.other, rest) else none
    else if Scalar.isValue word then some (.other, rest)
    else none
  | rest => if Scalar.isValue word then some (.other, rest) else none

def textNode (result : List Char × List Char) : Node × List Char :=
  (.text (String.ofList result.1), result.2)

mutual

/-- A value. The first number bounds the steps of the reading, the second the nesting. -/
def value : Nat → Nat → List Char → Option (Node × List Char)
  | 0, _, _ => none
  | steps + 1, depth, text =>
    match text with
    | '\x22' :: '\x22' :: '\x22' :: text => (basicLines false (dropFirstLineEnd text)).map textNode
    | '\x22' :: text => (basic text).map textNode
    | '\x27' :: '\x27' :: '\x27' :: text => (literalLines (dropFirstLineEnd text)).map textNode
    | '\x27' :: text => (literal text).map textNode
    | '[' :: text =>
      match depth with
      | 0 => none
      | depth + 1 => (items steps depth text).map fun rest => (.other, rest)
    | '\x7b' :: text =>
      match depth with
      | 0 => none
      | depth + 1 =>
        match skipBlanks text with
        | '\x7d' :: rest => some (.other, rest)
        | text => (members steps depth [] text).map fun rest => (.other, rest)
    | text => scalar text

/-- The rest of an array; after the last item there may be a comma. -/
def items : Nat → Nat → List Char → Option (List Char)
  | 0, _, _ => none
  | steps + 1, depth, text => do
    match ← skipLines false text with
    | ']' :: text => return text
    | text =>
      let (_, text) ← value steps depth text
      match ← skipLines false text with
      | ',' :: text => items steps depth text
      | ']' :: text => return text
      | _ => none

/-- The rest of a table within a line, which has at least one member more. -/
def members : Nat → Nat → Members → List Char → Option (List Char)
  | 0, _, _, _ => none
  | steps + 1, depth, known, text => do
    let (path, text) ← key keyParts text
    let text ← Scalar.expect? '=' text
    let (node, text) ← value steps depth (skipBlanks text)
    let known ← known.addKey path.dropLast (path.getLastD "") node
    match skipBlanks text with
    | ',' :: text => members steps depth known text
    | '\x7d' :: text => return text
    | _ => none

end

end Scan

/-- A document as far as it is read: its members and the path of the open table. -/
structure Document where
  members : Members
  openPath : List String

namespace Document

def empty : Document := ⟨[], []⟩

/-- Opens the table of a header, or one more table of a list. -/
def header (edit : String → Origin → Members → Option Members) (path : List String)
    (document : Document) : Option Document :=
  (document.members.change .implied (edit (path.getLastD "")) path.dropLast .header).map
    fun members => ⟨members, path⟩

/-- Puts a value into the open table. -/
def assign (path : List String) (node : Node) (document : Document) : Option Document :=
  let edit (_ : Origin) (members : Members) := members.addKey path.dropLast (path.getLastD "") node
  (document.members.change .implied edit document.openPath .header).map fun members =>
    { document with members }

/-- A line that begins with a bracket. -/
def headerLine (text : List Char) (document : Document) : Option (Document × List Char) := do
  match text with
  | '[' :: text =>
    let (path, text) ← Scan.key Scan.keyParts text
    match text with
    | ']' :: ']' :: text =>
      return (← document.header Members.openItem path, ← Scan.restOfLine? text)
    | _ => none
  | text =>
    let (path, text) ← Scan.key Scan.keyParts text
    match text with
    | ']' :: text =>
      return (← document.header Members.openTable path, ← Scan.restOfLine? text)
    | _ => none

/-- A line with a key and a value. -/
def valueLine (text : List Char) (document : Document) : Option (Document × List Char) := do
  let (path, text) ← Scan.key Scan.keyParts text
  let text ← Scalar.expect? '=' text
  let (node, text) ← Scan.value (4 * text.length + 4) Scan.nesting (Scan.skipBlanks text)
  let rest ← Scan.restOfLine? text
  return (← document.assign path node, rest)

/-- Reads lines to the end of the text; every line takes one step. -/
def readLines : Nat → List Char → Document → Option Document
  | 0, _, _ => none
  | steps + 1, text, document => do
    match Scan.skipBlanks text with
    | [] => return document
    | '#' :: text => readLines steps (← Scan.restOfLine? ('#' :: text)) document
    | '\n' :: text => readLines steps text document
    | '\r' :: '\n' :: text => readLines steps text document
    | '[' :: text =>
      let (document, rest) ← document.headerLine text
      readLines steps rest document
    | text =>
      let (document, rest) ← document.valueLine text
      readLines steps rest document

end Document

/-- The members of a document at its top; a byte order mark may stand before it. -/
def read (text : List Char) : Option Members :=
  let text := if text.head? = some '\uFEFF' then text.drop 1 else text
  (Document.empty.readLines (text.length + 2) text).map Document.members

end SchoolWeek.Toml
