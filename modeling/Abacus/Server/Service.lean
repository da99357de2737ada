/-
Module: Abacus.Server.Service
Purpose: A server: its settings, its dispatcher and its pages, the replies to requests, and what
  is logged when it starts, stops or is interrupted.
Main exports: Service, Service.create, Service.reply, Service.answer, Service.answers,
  Service.start, Service.stop, Service.serve
-/
import Abacus.Dispatcher
import Abacus.Http.Head
import Abacus.Server.Pages
import Abacus.Server.Route

namespace Abacus.Server

open Http (Request Response)

/-- How deep a server may nest what it reads: the brackets in the body of a request, the links on
the resource path, and those on the way to a page. The reader of each calls itself, so these depend
on the limit of the stack and on how many calls lead to the reader in the program that serves. -/
structure Nesting where
  brackets : Nat
  resourceLinks : Nat
  pageLinks : Nat
deriving DecidableEq, Repr, Inhabited

/-- A server, and how deep brackets may be nested in the body of a request to it. -/
structure Service where
  settings : Settings
  dispatcher : Dispatcher
  pages : Pages
  brackets : Nat
deriving DecidableEq, Repr, Inhabited

/-- Why there is no server for some settings. -/
inductive ServiceFault where
  | noWorkers
  | resource (fault : Files.ResolveFault)
deriving DecidableEq, Repr, Inhabited

namespace Service

/-- The server for settings, on a machine with the given number of processors. -/
def create (nesting : Nesting) (settings : Settings) (processors : Option Nat)
    (tree : Files.Tree) : Except ServiceFault Service :=
  match Dispatcher.create? settings.dispatchMode (settings.workerCount processors) with
  | none => .error .noWorkers
  | some dispatcher =>
      match Pages.create tree nesting.resourceLinks nesting.pageLinks settings.resourcePath
          settings.staticExtensions with
      | .error fault => .error (.resource fault)
      | .ok pages => .ok ⟨settings, dispatcher, pages, nesting.brackets⟩

/-- The calculator of a server. -/
def calculator (service : Service) : Calculator :=
  ⟨service.settings.maxLiteral⟩

/-- The reply to a request, if expressions are evaluated in the given way. -/
def replyWith (service : Service) (evaluate : String → Verdict) (tree : Files.Tree)
    (request : Request) : Reply :=
  let reply := match route request with
    | .calculation =>
        calculate service.brackets (service.dispatcher.run evaluate) request
    | .page name => service.pages.reply tree request name
    | .notFound => ⟨Response.notFound, []⟩
    | .methodNotAllowed allowed => ⟨Response.methodNotAllowed allowed, []⟩
  { reply with response := reply.response.sentTo request }

/-- The reply to a request. -/
def reply (service : Service) (tree : Files.Tree) (request : Request) : Reply :=
  service.replyWith service.calculator.verdict tree request

/-- What the client waits for, if the server does not know it. -/
def unknownExpectation? (request : Request) : Option String :=
  (request.header? "expect").filter fun expected =>
    expected ≠ "" ∧ Text.lower expected ≠ "100-continue"

/-- The request that a server takes from what a client sends. A body is taken only if the head
tells its length. -/
def received (sent : Request) : Except Http.HeadFault Request := do
  let head ← Http.Head.read (Http.byteChars sent.sentHead)
  let body := if (head.fields.any fun field => Text.lower field.1 = "content-length") then
    sent.body else []
  let request : Request := ⟨head.method, head.target, head.fields, body⟩
  match request.codingFault? with
  | some fault => throw fault
  | none => return request

/-- The reply to what a client sends. A request that cannot be read, or that waits for what is not
known, reaches no handler. -/
def answer (service : Service) (evaluate : String → Verdict) (tree : Files.Tree)
    (sent : Request) : Reply :=
  match received sent with
  | .error fault => ⟨Response.badRequest fault.message, []⟩
  | .ok request =>
      match unknownExpectation? request with
      | some expected => ⟨(Response.unknownExpectation expected).sentTo request, []⟩
      | none => service.replyWith evaluate tree request

/-- The answers to requests that come one after the other. -/
def answers (service : Service) (evaluate : String → Verdict) (tree : Files.Tree)
    (requests : List Request) : List Reply :=
  requests.map (service.answer evaluate tree)

/-- A record of the server itself. -/
def record (message : String) : Log.Record :=
  ⟨.info, .server, message⟩

/-- What is logged when a server starts. -/
def start (service : Service) : List Log.Record :=
  [record (s!"Server started on {service.settings.host}:{service.settings.port} " ++
    s!"(dispatch mode {service.dispatcher.mode.label})")]

/-- Stops a server: its pool is shut down. -/
def stop (service : Service) : Service × List Log.Record :=
  let (dispatcher, records) := service.dispatcher.shutdown
  ({ service with dispatcher }, records ++ [record "Server stopped"])

/-- Serves until it is told to end: the server starts and stops. -/
def serve (service : Service) : Service × List Log.Record :=
  let (stopped, records) := service.stop
  (stopped, service.start ++ records)

/-- What is logged when a running server is interrupted. -/
def interrupted : List Log.Record :=
  [record "Interrupted"]

end Service

end Abacus.Server
