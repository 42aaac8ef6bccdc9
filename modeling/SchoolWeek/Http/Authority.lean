import SchoolWeek.Text.Search

/-! What may stand before the path of a target: a scheme, and the name of a server with a
user before it and a port behind it. -/
namespace SchoolWeek.Http.Authority

/-- The characters that end the name of a server. -/
def isEnd (character : Char) : Bool := ['/', '?', '#'].contains character

/-- The characters of schemes. -/
def isSchemeCharacter (character : Char) : Bool :=
  character.isAlphanum || ['+', '-', '.', '~'].contains character

/-- What follows a scheme of at most 64 characters, a colon and two slashes. -/
def dropScheme? (text : List Char) : Option (List Char) :=
  let (scheme, rest) := text.span isSchemeCharacter
  if scheme.length ≤ 64 then Text.dropLead? "://".toList rest else none

/-- The characters that may stand for themselves. -/
def isPlain (character : Char) : Bool :=
  character.isAlphanum ||
    ['!', '$', '&', '\x27', '(', ')', '*', '+', ',', '-', '.', ';', '=', '_', '~'].contains character

/-- What the characters so far say. Colons and percent signs are forgotten once they turn
out to belong to the user or to an address in brackets. -/
structure Progress where
  colons : Nat := 0
  hasPercent : Bool := false
  isOpened : Bool := false
  isClosed : Bool := false
  endsWithAt : Bool := false
  deriving DecidableEq, Repr

def step? (progress : Progress) (character : Char) : Option Progress :=
  let progress := { progress with endsWithAt := character = '@' }
  match character with
  | ':' => if progress.colons < 8 then some { progress with colons := progress.colons + 1 } else none
  | '[' =>
    if progress.hasPercent || progress.isOpened then none
    else some { progress with isOpened := true }
  | ']' =>
    if progress.isOpened && !progress.isClosed then
      some { progress with isClosed := true, colons := 0, hasPercent := false }
    else none
  | '@' => some { progress with colons := 0, hasPercent := false }
  | '%' => some { progress with hasPercent := true }
  | character => if isPlain character then some progress else none

/-- At most one colon is left for the port, and there is something behind the user. -/
def isValid (text : List Char) : Bool :=
  match text.foldlM step? {} with
  | some progress =>
    progress.isOpened == progress.isClosed && progress.colons ≤ 1 && !progress.endsWithAt &&
      !progress.hasPercent
  | none => false

end SchoolWeek.Http.Authority
