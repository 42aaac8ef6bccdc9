import SchoolWeek.Text.Decimal

/-! Media types, as far as it matters whether a body is JSON. -/
namespace SchoolWeek.Http.MediaType

/-- The characters of the names in a media type. -/
def isToken (character : Char) : Bool :=
  character.isAlphanum ||
    ['!', '#', '$', '%', '&', '\x27', '*', '+', '-', '.', '^', '_', '\x60', '|', '~'].contains character

/-- What may stand in a quoted value. -/
def isQuotable (character : Char) : Bool := 32 ≤ character.toNat && character.toNat != 127

/-- Where in the parameters a character stands. -/
inductive Place
  | nameStart
  | name
  | valueStart
  | value
  /-- Right after the opening quote, where another quote stands for itself. -/
  | quoteStart
  | quoted
  | afterQuote
  deriving DecidableEq, Repr

def step? (place : Place) (character : Char) : Option Place :=
  match place with
  | .nameStart =>
    if character = ' ' then some .nameStart else if isToken character then some .name else none
  | .name =>
    if character = '=' then some .valueStart else if isToken character then some .name else none
  | .valueStart =>
    if character = '\x22' then some .quoteStart
    else if isToken character then some .value else none
  | .value =>
    if character = ';' then some .nameStart else if isToken character then some .value else none
  | .quoteStart => if isQuotable character then some .quoted else none
  | .quoted =>
    if character = '\x22' then some .afterQuote
    else if isQuotable character then some .quoted else none
  | .afterQuote =>
    if character = ';' then some .nameStart else if character = ' ' then some .afterQuote else none

/-- Parameters, after the first semicolon. -/
def areParameters (text : List Char) : Bool :=
  match text.foldlM step? Place.nameStart with
  | some place => [Place.nameStart, .valueStart, .value, .afterQuote].contains place
  | none => false

/-- What stands before the last plus sign that does not come first, and what stands after it. -/
def splitSuffix (subtype : List Char) : List Char × Option (List Char) :=
  let suffix := (subtype.reverse.takeWhile (· != '+')).reverse
  let stem := subtype.take (subtype.length - suffix.length - 1)
  if suffix.length = subtype.length || stem.isEmpty then (subtype, none) else (stem, some suffix)

/-- The type is that of an application, with JSON as its subtype or as its suffix. -/
def isJson (text : String) : Bool :=
  let (kind, rest) := (text.toList.map Char.toLower).span isToken
  let (subtype, parameters) := (rest.drop 1).span isToken
  let (stem, suffix?) := splitSuffix subtype
  kind == "application".toList && rest.head? = some '/' &&
    (parameters.isEmpty || (parameters.head? = some ';' && areParameters (parameters.drop 1))) &&
    (stem == "json".toList || suffix? == some "json".toList)

end SchoolWeek.Http.MediaType
