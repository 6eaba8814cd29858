import DumpLens.Api.Answer
import DumpLens.Api.Form
import DumpLens.Api.Site
import DumpLens.File.Access
import DumpLens.Workplace

/-! The HTTP API: which endpoint a request is for, and what comes of it. -/

namespace DumpLens.Api

/-! ## Endpoints -/

/-- The pages on which the API describes itself. -/
inductive ManualPage
  | description
  | explorer
  | explorerLogin
  | reference
  deriving DecidableEq, Repr

/-- What can be asked of the API. -/
inductive Endpoint
  | manual (page : ManualPage)
  | compile
  | render
  | compileAll
  | kinds
  deriving DecidableEq, Repr

namespace Endpoint

def all : List Endpoint :=
  [manual .description, manual .explorer, manual .explorerLogin, manual .reference,
    compile, render, compileAll, kinds]

def path : Endpoint → Text
  | manual .description => "/openapi.json".toList
  | manual .explorer => "/docs".toList
  | manual .explorerLogin => "/docs/oauth2-redirect".toList
  | manual .reference => "/redoc".toList
  | compile => "/api/compile".toList
  | render => "/api/render".toList
  | compileAll => "/api/compile-all".toList
  | kinds => "/api/ir-kinds".toList

def methods : Endpoint → List Text
  | manual _ => ["GET".toList, "HEAD".toList]
  | compile | render | compileAll => ["POST".toList]
  | kinds => ["GET".toList]

/-- Whether an endpoint is at a path. A newline may end the path. -/
def isAt (path : Text) (endpoint : Endpoint) : Bool :=
  path == endpoint.path || path == endpoint.path ++ ['\n']

/-- Whether there is an endpoint at a path. -/
def existsAt (path : Text) : Bool :=
  all.any (isAt path)

def find? (method path : Text) : Option Endpoint :=
  all.find? fun endpoint => endpoint.isAt path && endpoint.methods.contains method

end Endpoint

/-! ## Servers -/

/-- A running server: its configuration, the session that its requests share, and the
site that it serves besides. -/
structure Server where
  config : Config
  session : Session CodePoints
  site : Option Site

/-- The part of the program that logs about servers. -/
def serverLogSource : Text := "ir_explorer.server".toList

/-- Starts a server in a workplace, and logs if the directory of the site is not there. -/
def Server.start (workplace : Workplace) (config : Config) :
    Except FileError (Server × List LogRecord) := do
  let server : Server := ⟨config, .start, none⟩
  if config.server.staticDir.isEmpty then pure (server, [])
  else
    let path := Path.ofText config.server.staticDir
    match ← workplace.files.directory? workplace.directory path with
    | some place => pure ({ server with site := some ⟨place⟩ }, [])
    | none => pure (server, [⟨.warning, serverLogSource,
        "static dir ".toList ++ path.text ++ " does not exist, not serving it".toList⟩])

/-! ## Requests -/

/-- What comes of a request: the response, the session behind it and the commands that
were run. -/
structure Exchange where
  response : Response
  session : Session CodePoints
  invocations : List Invocation

/-- The system while a request is served. While a kind compiles the session may change,
as other requests use it. -/
structure Circumstances where
  workplace : Workplace
  meanwhile : CodePoints → Session CodePoints → Session CodePoints

namespace Server

/-- A response that runs nothing. -/
def answer (server : Server) (response : Response) : Exchange :=
  ⟨response, server.session, []⟩

/-- Reads the form of a request and goes on with it. A faulty body is refused. -/
def withForm (server : Server) (request : Request) (check : JsonEntries → Checked α)
    (next : α → Exchange) : Exchange :=
  match request.form check with
  | .ok form => next form
  | .error error => server.answer error.response

/-- How many kinds of one request are compiled at the same time. -/
def workers : Int := 4

/-- Compiles for one kind, and makes a response of the result. A failure of the system
is an internal error. -/
def compileOne (server : Server) (circumstances : Circumstances) (form : CompileForm)
    (respond : CompileResult → Response) : Exchange :=
  let compilation :=
    compilePoints circumstances.workplace.toolchain server.config.compiler form.source form.kind
  { response := match compilation.result with
      | .ok result => respond result
      | .error _ => .internalError
    session :=
      if compilation.invocation.isSome then circumstances.meanwhile form.kind server.session
      else server.session
    invocations := compilation.invocation.toList }

def renderResponse (server : Server) (result : CompileResult) : Response :=
  match renderDump result (Language.ofName server.config.render.language) Palette.standard with
  | .ok dump => .json 200 (renderedJson result.success dump)
  | .error _ => .internalError

/-- Compiles for several kinds in the session. -/
def compileSeveral (server : Server) (circumstances : Circumstances) (form : CompileAllForm) :
    Exchange :=
  let run := DumpLens.compileAll {
      workers
      compile := compilePoints circumstances.workplace.toolchain server.config.compiler form.source
      meanwhile := circumstances.meanwhile
      receive := fun _ _ session => (session, none) } server.session form.kinds
  { response := .json 200 (CompileAllAnswer.ofRequest form.kinds run.request).json
    session := run.session
    invocations := run.invocations }

/-- Serves a request to an endpoint. What the pages of the manual show is not made here. -/
def serveEndpoint (server : Server) (circumstances : Circumstances) (request : Request) :
    Endpoint → Exchange
  | .manual _ => server.answer (.plain 200 [])
  | .compile => server.withForm request CompileForm.check fun form =>
      server.compileOne circumstances form fun result => .json 200 (resultJson result)
  | .render => server.withForm request CompileForm.check fun form =>
      server.compileOne circumstances form server.renderResponse
  | .compileAll => server.withForm request CompileAllForm.check
      (server.compileSeveral circumstances)
  | .kinds => server.answer (.json 200 (kindsJson server.config.render.defaultKind))

def withoutSlashes (path : Text) : Text :=
  (path.reverse.dropWhile (· == '/')).reverse

def servesAt (server : Server) (path : Text) : Bool :=
  Endpoint.existsAt path || (server.site.isSome && Site.takes path)

/-- The response to a request that neither an endpoint nor the site takes. Slashes at the
end of a path that is served without them are to be left out. -/
def refuse (server : Server) (path : Text) : Response :=
  if Endpoint.existsAt path then .methodNotAllowed
  else if path.getLast? = some '/' ∧ server.servesAt (withoutSlashes path) then
    .redirect (withoutSlashes path)
  else .notFound

example : refuse ⟨.standard, .start, none⟩ "/api/render//".toList =
    .redirect "/api/render".toList := by decide +kernel

/-- Serves a request. What no endpoint takes goes to the site, if there is one. -/
def serve (server : Server) (circumstances : Circumstances) (request : Request) : Exchange :=
  match Endpoint.find? request.method request.path with
  | some endpoint => server.serveEndpoint circumstances request endpoint
  | none =>
    match server.site with
    | some site =>
      if Site.takes request.path then
        server.answer (site.respond circumstances.workplace.files request.method request.path)
      else server.answer (server.refuse request.path)
    | none => server.answer (server.refuse request.path)

end Server

end DumpLens.Api
