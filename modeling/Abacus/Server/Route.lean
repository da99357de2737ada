/-
Module: Abacus.Server.Route
Purpose: Which handler a request goes to. One path takes expressions, every path that is more
  than a slash and holds no line feed may name a page.
Main exports: Route, route
-/
import Abacus.Http.Message
import Abacus.Http.Target

namespace Abacus.Server

open Http (Request)

/-- What answers to a request. -/
inductive Route where
  | calculation
  | page (name : String)
  | notFound
  | methodNotAllowed (allowed : List String)
deriving DecidableEq, Repr, Inhabited

/-- The path that takes expressions. -/
def calculationPath : List Char :=
  "/calculate".toList

/-- The name of the page that a path may stand for. As in aiohttp 3.13 with yarl 1.22, the path has
its escapes read before it is matched, those of slashes and percent signs apart; releases as old as
aiohttp 3.9 match the path as it was sent. -/
def pageName? : List Char → Option String
  | '/' :: name =>
      if name = [] ∨ '\n' ∈ name then none
      else some (String.ofList (Http.plainText name))
  | _ => none

/-- The methods that a path answers to, in order. -/
def allowedMethods (path : List Char) : List String :=
  (if (pageName? path).isSome then ["GET", "HEAD"] else [])
    ++ (if path = calculationPath then ["POST"] else [])

/-- The handler for a request. -/
def route (request : Request) : Route :=
  let path := Http.unescapePath
    ((Http.targetPath? request.method request.target.toList).getD [])
  if path = calculationPath ∧ request.method = "POST" then .calculation
  else
    match pageName? path with
    | some name =>
        if request.method = "GET" ∨ request.method = "HEAD" then .page name
        else .methodNotAllowed (allowedMethods path)
    | none => .notFound

end Abacus.Server
