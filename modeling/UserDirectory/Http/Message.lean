import UserDirectory.Http.Uri

/-!
# Requests and replies
-/

namespace UserDirectory

/-- A request. Its method is case-sensitive. -/
structure Request where
  method : String
  uri : Uri
  headers : List (String × String)
  body : String

/-- Why there is no request. -/
inductive RequestError where
  | invalidUri
  | invalidMethod
  deriving DecidableEq, Repr

namespace Request

/-- Characters of a method: letters, digits and ten marks. -/
def isMethodChar (c : Char) : Bool :=
  c.isAlphanum || ['!', '*', '+', '-', '.', '^', '_', '\x60', '|', '~'].contains c

/-- Whether the text can be a method. -/
def isMethod (s : String) : Bool := !s.isEmpty && s.toList.all isMethodChar

/-- The request for a target, if the target and the method are well-formed. The target is looked at
first. -/
def make (method target : String) (headers : List (String × String)) (body : String) :
    Except RequestError Request :=
  match Uri.parse? target with
  | none => .error .invalidUri
  | some uri => if isMethod method then .ok ⟨method, uri, headers, body⟩ else .error .invalidMethod

end Request

/-- A reply. -/
structure Reply where
  status : Nat
  headers : List (String × String)
  body : String
  deriving DecidableEq, Repr

namespace Reply

/-- A reply with a JSON body. -/
def json (status : Nat) (body : String) : Reply :=
  ⟨status, [("content-type", "application/json")], body⟩

/-- The reply where no route leads. -/
def notFound : Reply := ⟨404, [], ""⟩

/-- The reply to a request that cannot be read. -/
def badRequest : Reply := ⟨400, [], ""⟩

/-- The reply of the user route when there is nothing to look users up in. -/
def notConfigured : Reply :=
  ⟨500, [("content-type", "text/plain; charset=utf-8")],
    "Requested application data is not configured correctly. " ++
      "View/enable debug logs for more details."⟩

end Reply

end UserDirectory
