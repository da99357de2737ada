/-
Module: Abacus.Http.Message
Purpose: Requests and responses, and the responses that every server gives in the same words.
Main exports: Request, Response, Response.plain, Response.json, Response.page
-/
import Abacus.Json.Write
import Abacus.Text.Case

namespace Abacus.Http

/-- A request. -/
structure Request where
  method : String
  /-- The target as it was sent, with its escapes. -/
  target : String
  headers : List (String × String) := []
  body : List UInt8 := []
deriving DecidableEq, Repr, Inhabited

/-- The value of a header; names are compared without regard to case. -/
def Request.header? (request : Request) (name : String) : Option String :=
  (request.headers.find? fun header => Text.lower header.1 = name).map Prod.snd

/-- A response. -/
structure Response where
  status : Nat
  contentType : String
  /-- The methods that the resource knows, in order, where the one asked for is none of them. -/
  allow : Option (List String) := none
  body : String
deriving DecidableEq, Repr, Inhabited

namespace Response

/-- A response with a text. -/
def plain (status : Nat) (text : String) : Response where
  status := status
  contentType := "text/plain; charset=utf-8"
  body := text

/-- A response with a page. -/
def page (status : Nat) (html : String) : Response where
  status := status
  contentType := "text/html; charset=utf-8"
  body := html

/-- A response with a JSON value, whose numbers can be written. -/
def json (status : Nat) (value : Json.Value) : Response where
  status := status
  contentType := "application/json; charset=utf-8"
  body := Json.compact value

/-- Nothing answers to the path. -/
def notFound : Response :=
  plain 404 "404: Not Found"

/-- The path answers to other methods only. -/
def methodNotAllowed (allowed : List String) : Response :=
  { plain 405 "405: Method Not Allowed" with allow := some allowed }

/-- The request cannot be read. -/
def badRequest (text : String) : Response :=
  plain 400 text

/-- The body is too large. -/
def tooLarge (limit size : Nat) : Response :=
  plain 413 s!"Maximum request body size {limit} exceeded, actual body size {size}"

/-- The client waits for something that the server does not do. -/
def unknownExpectation (expected : String) : Response :=
  plain 417 s!"Unknown Expect: {expected}"

/-- The request could not be handled. A client that accepts pages gets one, in the words of aiohttp
3.13, which are those of 3.9 too. -/
def serverError (request : Request) : Response :=
  let title := "500 Internal Server Error"
  let words := "Server got itself in trouble"
  let accepted := (request.header? "accept").getD ""
  if (accepted.splitOn "text/html").length > 1 then
    page 500 (s!"<html><head><title>{title}</title></head><body>\n<h1>{title}</h1>\n{words}\n" ++
      "</body></html>\n")
  else
    plain 500 s!"{title}\n\n{words}"

/-- A response as it is sent: none to a HEAD request has a body. -/
def sentTo (response : Response) (request : Request) : Response :=
  if request.method = "HEAD" then { response with body := "" } else response

end Response

end Abacus.Http
