import SchoolWeek.Http.MediaType
import SchoolWeek.Http.Target
import SchoolWeek.Text.Utf8

/-! A request, and which texts can be part of one at all. -/
namespace SchoolWeek.Http

structure Request where
  method : String
  target : Target
  contentType? : Option String
  body : Text.Gapped

namespace Request

/-- The longest body that is read, in bytes. -/
def sizeLimit : Nat := 2097152

/-- How many bytes the body has. -/
def size (request : Request) : Nat :=
  request.body.foldl (fun size character => size + (character.map Char.utf8Size).getD 1) 0

/-- A method is a word of token characters. -/
def isMethod (text : String) : Bool := !text.isEmpty && text.toList.all MediaType.isToken

/-- The value of a header has no control characters but tabs. -/
def isHeaderValue (text : String) : Bool :=
  text.toList.all fun character => character = '\t' || MediaType.isQuotable character

/-- The request of these parts, if each of them can stand in a request. -/
def ofParts? (method : String) (target : List Char) (contentType? : Option String)
    (body : List Char) : Option Request :=
  if isMethod method && contentType?.all isHeaderValue then
    (Target.read? target).map fun target => ⟨method, target, contentType?, body.map some⟩
  else none

end Request
end SchoolWeek.Http
