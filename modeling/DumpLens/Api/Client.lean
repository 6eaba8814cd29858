import DumpLens.Api.Server
import DumpLens.Api.Target
import DumpLens.Text.Quoted

/-! A client in the same process as the server. It follows redirections. -/

namespace DumpLens.Api

/-- Why a client cannot send a request. -/
inductive ClientError
  /-- The target cannot be read. -/
  | unreadableTarget
  | contentTypeNotAscii
  /-- Nobody answers requests under a scheme. -/
  | unknownScheme (scheme : Text)
  /-- A scheme is that of connections which stay open. -/
  | lastingConnection
  deriving DecidableEq, Repr

/-- An error in words, if there are any. -/
def ClientError.message? : ClientError → Option Text
  | .unknownScheme scheme => some (Quoted.quote scheme)
  | _ => none

namespace Client

/-- How many redirections a client follows. -/
def patience : Nat := 20

/-- Sends a request and follows redirections, at most the given number. -/
def follow (server : Server) (circumstances : Circumstances) (request : Request) :
    Nat → Exchange
  | 0 => server.serve circumstances request
  | count + 1 =>
    let exchange := server.serve circumstances request
    match exchange.response.location with
    | some location =>
      let path := (Target.ofLocation location).askedPath
      follow server circumstances { request with path } count
    | none => exchange

/-- A response as the client gets it: one to a request for the head has no body. -/
def received (method : Text) (response : Response) : Response :=
  if method = "HEAD".toList then { response with body := [] } else response

/-- Checks the scheme of a target. One that is completed gets the scheme of the server. -/
def checkScheme (target : Target) : Except ClientError Unit :=
  if !target.isAbsolute || ["http".toList, "https".toList].contains target.scheme then .ok ()
  else if ["ws".toList, "wss".toList].contains target.scheme then .error .lastingConnection
  else .error (.unknownScheme target.scheme)

def send (server : Server) (circumstances : Circumstances) (method target : Text)
    (contentType : Option Text) (body : Bytes) : Except ClientError Exchange := do
  let some target := Target.read? target | throw .unreadableTarget
  if contentType.any fun name => !name.all isAscii then throw .contentTypeNotAscii
  checkScheme target
  let method := method.flatMap asciiCapitals
  let request := ⟨method, target.askedPath, contentType, body⟩
  let exchange := follow server circumstances request patience
  pure { exchange with response := received method exchange.response }

end Client

end DumpLens.Api
