import DumpLens.Json.Writable
import DumpLens.Text.Utf8

/-! Messages of the HTTP API: requests and responses. -/

namespace DumpLens.Api

/-- A request. Escapes in its path are resolved. -/
structure Request where
  method : Text
  path : Text
  contentType : Option Text
  body : Bytes
  deriving DecidableEq, Repr

/-- A response. A redirection says where to go instead. -/
structure Response where
  status : Nat
  location : Option Text
  body : Bytes
  deriving DecidableEq, Repr

namespace Response

def plain (status : Nat) (text : Text) : Response :=
  ⟨status, none, Utf8.encode text⟩

/-- The response when something failed that nobody expected. -/
def internalError : Response := plain 500 "Internal Server Error".toList

/-- A response with a value. A value that cannot be written makes it an internal error. -/
def json (status : Nat) (value : Json) : Response :=
  if value.isWritable then plain status value.text else internalError

/-- A response that says what was wrong. -/
def refusal (status : Nat) (detail : Text) : Response :=
  json status (Json.record [("detail", .ofText detail)])

def notFound : Response := refusal 404 "Not Found".toList

def methodNotAllowed : Response := refusal 405 "Method Not Allowed".toList

/-- A redirection that keeps the method and the body. -/
def redirect (target : Text) : Response := ⟨307, some target, []⟩

end Response

end DumpLens.Api
