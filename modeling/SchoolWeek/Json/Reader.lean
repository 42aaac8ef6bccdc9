import SchoolWeek.Json.Lexer

/-! Reading tokens into a draft: the tree of a JSON text as far as it can be read.
Where the text breaks off, every container still open stays marked as unclosed, so
that whoever walks the draft in reading order meets the break where it is. -/
namespace SchoolWeek.Json

/-- A JSON text as far as it can be read. -/
inductive Draft
  | null
  | bool (value : Bool)
  | number (value : Number)
  | text (content? : Option String)
  | array (items : List Draft) (closed : Bool)
  | object (members : List (Option String × Draft)) (closed : Bool)
  /-- No value stands where one is due. -/
  | broken
  deriving Repr, Inhabited

namespace Draft

/-- The value can be passed over. A break inside shows at the outermost container. -/
def isWhole : Draft → Bool
  | array _ closed => closed
  | object _ closed => closed
  | broken => false
  | _ => true

end Draft

/-- A container that is being read, its contents last first. -/
inductive Open
  | array (items : List Draft)
  | object (members : List (Option String × Draft)) (name? : Option String)

namespace Open

/-- The container with a value put in: as an item, or as the member whose name was read. -/
def put (value : Draft) : Open → Open
  | array items => array (value :: items)
  | object members name? => object ((name?, value) :: members) name?

def toDraft (closed : Bool) : Open → Draft
  | array items => .array items.reverse closed
  | object members _ => .object members.reverse closed

end Open

/-- What may come next. -/
inductive Due
  | value
  | firstItem
  | firstName
  | name
  | colon
  | separator
  deriving DecidableEq, Repr

/-- The reading of a text: the open containers, innermost first. -/
inductive Reading
  | inside (due : Due) (stack : List Open)
  | done (draft : Draft)

namespace Reading

/-- Gives a finished value to the innermost container. -/
def deliver (value : Draft) : List Open → Reading
  | [] => done value
  | container :: stack => inside .separator (container.put value :: stack)

/-- Closes the containers around a value without their closing brackets. -/
def abandon (value : Draft) (stack : List Open) : Draft :=
  stack.foldl (fun value container => (container.put value).toDraft false) value

/-- The draft of a text that breaks off here. -/
def breakOff (due : Due) (stack : List Open) : Draft :=
  match due, stack with
  | .value, stack | .colon, stack => abandon .broken stack
  | _, [] => .broken
  | _, container :: stack => abandon (container.toDraft false) stack

/-- A token where a value is due. -/
def onValue (stack : List Open) : Token → Option Reading
  | .openBrace => some (inside .firstName (.object [] none :: stack))
  | .openBracket => some (inside .firstItem (.array [] :: stack))
  | .null => some (deliver .null stack)
  | .bool value => some (deliver (.bool value) stack)
  | .number value => some (deliver (.number value) stack)
  | .text content? => some (deliver (.text content?) stack)
  | _ => none

def onName (stack : List Open) : Token → Option Reading
  | .text name? =>
    match stack with
    | .object members _ :: stack => some (inside .colon (.object members name? :: stack))
    | _ => none
  | _ => none

def onSeparator (stack : List Open) (token : Token) : Option Reading :=
  match token, stack with
  | .comma, .array _ :: _ => some (inside .value stack)
  | .comma, .object _ _ :: _ => some (inside .name stack)
  | .closeBracket, .array items :: stack => some (deliver (.array items.reverse true) stack)
  | .closeBrace, .object members _ :: stack =>
    some (deliver (.object members.reverse true) stack)
  | _, _ => none

/-- The reading after a token, if the token may stand there. -/
def step? (due : Due) (stack : List Open) (token : Token) : Option Reading :=
  match due with
  | .value => onValue stack token
  | .firstItem =>
    if token = .closeBracket then onSeparator stack token else onValue stack token
  | .firstName => if token = .closeBrace then onSeparator stack token else onName stack token
  | .name => onName stack token
  | .colon => if token = .colon then some (inside .value stack) else none
  | .separator => onSeparator stack token

end Reading

/-- The draft and the tokens after it. -/
def readFrom : Reading → List Token → Draft × List Token
  | .done draft, tokens => (draft, tokens)
  | .inside due stack, [] => (Reading.breakOff due stack, [])
  | .inside due stack, token :: tokens =>
    match Reading.step? due stack token with
    | some reading => readFrom reading tokens
    | none => (Reading.breakOff due stack, token :: tokens)

/-- Reads one value and leaves the tokens after it. -/
def read (text : Text.Gapped) : Draft × List Token :=
  readFrom (.inside .value []) (tokens text)

end SchoolWeek.Json
