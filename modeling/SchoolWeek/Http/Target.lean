import SchoolWeek.Http.Authority
import SchoolWeek.Text.Percent
import SchoolWeek.Text.Search
import SchoolWeek.Text.Blank
import SchoolWeek.Text.Utf8

/-! The target of a request: a path of segments and a query of pairs. Both may hold
percent signs followed by two hexadecimal digits, which stand for a byte. -/
namespace SchoolWeek.Http

structure Target where
  path : List Char
  query : List Char
  deriving DecidableEq, Repr

namespace Target

/-- The characters that need no percent sign in a path. -/
def isPathCharacter (character : Char) : Bool :=
  let code := character.toNat
  code == 0x21 || code == 0x22 || (0x24 ≤ code && code ≤ 0x3B) || code == 0x3D ||
    (0x40 ≤ code && code ≤ 0x5F) || (0x61 ≤ code && code != 0x7F)

def isQueryCharacter (character : Char) : Bool :=
  let code := character.toNat
  code == 0x21 || (0x24 ≤ code && code ≤ 0x3B) || code == 0x3D || (0x3F ≤ code && code != 0x7F)

/-- A path and what may stand behind a question mark; a number sign ends both. -/
def readPath? (text : List Char) : Option Target :=
  let (path, rest) := (text.takeWhile (· != '#')).span (· != '?')
  let query := rest.drop 1
  if path.all isPathCharacter && query.all isQueryCharacter then some ⟨path, query⟩ else none

/-- A whole target of this many bytes is too long. -/
def sizeLimit : Nat := 65535

/-- Reads a path with its query, which may follow a scheme and the name of a server. The
name of a server alone is a target without a path. -/
def read? (text : List Char) : Option Target :=
  if sizeLimit ≤ (String.ofList text).utf8ByteSize then none
  else if text.head? = some '/' then readPath? text
  else
    match Authority.dropScheme? text with
    | none =>
      if text.isEmpty || !Authority.isValid text then none else some ⟨[], []⟩
    | some rest =>
      let (server, rest) := rest.span (!Authority.isEnd ·)
      if server.isEmpty || !Authority.isValid server then none
      else if rest.head? = some '/' then readPath? rest
      else readPath? ('/' :: rest)

/-- The parts of the path between slashes. -/
def segments (target : Target) : List (List Char) := Text.split (· == '/') target.path

end Target

/-- A segment as a text, unless its bytes spell none. -/
def decodeSegment? (segment : List Char) : Option (List Char) :=
  (Text.decodeUtf8 (Text.percentDecode (Text.encodeUtf8 segment))).whole?

/-- A name or value of a query, where a plus sign stands for a space. -/
def decodeQueryText (text : List Char) : List Char :=
  (Text.decodeUtf8 (Text.percentDecode (Text.encodeUtf8 (Text.substitute '+' [' '] text)))).lossy

/-- The names and values of a query. A part without an equals sign is a name without value. -/
def queryPairs (query : List Char) : List (List Char × List Char) :=
  ((Text.split (· == '&') query).filter (!·.isEmpty)).map fun part =>
    let (name, value) := (Text.cut? '=' part).getD (part, [])
    (decodeQueryText name, decodeQueryText value)

/-- The value of a name that occurs exactly once. -/
def onlyValue? (name : String) (pairs : List (List Char × List Char)) : Option (List Char) :=
  match pairs.filter (·.1 == name.toList) with
  | [(_, value)] => some value
  | _ => none

end SchoolWeek.Http
