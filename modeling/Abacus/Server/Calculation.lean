/-
Module: Abacus.Server.Calculation
Purpose: Requests to calculate. The body is a JSON object whose member `expression` is the
  expression; the answer is a JSON object with the result, or with the error and its kind.
Main exports: Reply, calculate
-/
import Abacus.Calculator
import Abacus.Http.Coding
import Abacus.Http.ContentType
import Abacus.Json.Read
import Abacus.Log

namespace Abacus.Server

open Http (Request Response)
open Json (Value)

/-- A response and the log records written on the way. -/
structure Reply where
  response : Response
  records : List Log.Record
deriving DecidableEq, Repr, Inhabited

/-- The reply to a request that a handler breaks off. -/
def Reply.broken (request : Request) (records : List Log.Record) : Reply :=
  ⟨Response.serverError request, records⟩

namespace Calculation

/-- A record of this handler. -/
def record (level : Log.Level) (message : String) : Log.Record :=
  ⟨level, .calculation, message⟩

/-- The answer to a request that cannot be answered with a result. -/
def errorResponse (status : Nat) (message : String) (kind : Option String) : Response :=
  Response.json status (.object (("error", .string message)
    :: (kind.map fun name => ("kind", Value.string name)).toList))

/-- Why a body holds no expression. -/
inductive BodyFault where
  | blank
  | malformed
  | noExpression
  /-- Brackets are nested too deep, or a number has too many digits. -/
  | beyondLimits
deriving DecidableEq, Repr, Inhabited

/-- The words for a body without an expression; none if the handler breaks off. -/
def BodyFault.message? : BodyFault → Option String
  | blank => some "No expression was provided."
  | malformed => some "Request body is not valid JSON"
  | noExpression => some "no \"expression\" key"
  | beyondLimits => none

/-- The expression in the text of a body, in which brackets may be nested as deep as `depth`. -/
def expressionOf (depth : Nat) (text : List Char) : Except BodyFault String :=
  if Text.isBlankText text then .error .blank
  else
    match Json.read depth text with
    | .error fault => .error (if fault.reason.isLimit then .beyondLimits else .malformed)
    | .ok document =>
        match document with
        | .object members =>
            match members.lookup "expression" with
            | some (.string expression) => .ok expression
            | _ => .error .noExpression
        | _ => .error .malformed

/-- The response to an expression with the given verdict, and what is logged; no response if the
result has too many digits to be written, or if there is no report. -/
def verdictReply (expression : String) (verdict : Verdict) : Option Response × List Log.Record :=
  match verdict with
  | .value n =>
      if Text.IsWritable n then (some (Response.json 200 (.object [("result", .whole n)])), [])
      else (none, [])
  | .refused report =>
      let shown := Text.quoted expression
      if report.kind = .internal then
        (some (errorResponse 500 report.text (some report.kind.name)),
          [record .error s!"Internal error evaluating {shown}: {report.message}"])
      else
        (some (errorResponse 400 report.text (some report.kind.name)),
          [record .warning s!"Failed to evaluate {shown}: {report.message}"])
  | .broken => (none, [])

/-- The response to the text of a body. The verdict on an expression is none if no worker takes
the call. -/
def textReply (depth : Nat) (request : Request) (evaluate : String → Option Verdict)
    (text : List Char) : Reply :=
  let received := record .debug s!"Received calculation request: {Text.quoted (String.ofList text)}"
  match expressionOf depth text with
  | .error fault =>
      match fault.message? with
      | some message => ⟨errorResponse 400 message none, [received]⟩
      | none => .broken request [received]
  | .ok expression =>
      match (evaluate expression).map (verdictReply expression) with
      | some (some response, records) => ⟨response, received :: records⟩
      | some (none, records) => .broken request (received :: records)
      | none => .broken request [received]

end Calculation

/-- Why a body has no text. -/
inductive TextFault where
  | tooLarge (size : Nat)
  /-- Its bytes are none that can be read, or its charset is none. -/
  | unreadable
deriving DecidableEq, Repr, Inhabited

/-- The text of a body in the charset that its content type names, UTF-8 if it names none. An
empty body needs no charset. -/
def bodyText (request : Request) : Except TextFault (List Char) :=
  match request.content with
  | .error (.tooLarge size) => .error (.tooLarge size)
  | .error .corrupt => .error .unreadable
  | .ok content =>
      match Http.charsetName ((request.header? "content-type").getD "") with
      | .error _ => .error .unreadable
      | .ok name =>
          let text? := if content = [] then some []
            else Charset.ofName? (name.getD "utf-8") >>= fun charset => charset.decode? content
          match text? with
          | none => .error .unreadable
          | some text => .ok text

/-- The reply to a request to calculate. Brackets may be nested as deep as `depth` in its body. -/
def calculate (depth : Nat) (evaluate : String → Option Verdict) (request : Request) : Reply :=
  match bodyText request with
  | .error (.tooLarge size) => ⟨Response.tooLarge Http.maxBodySize size, []⟩
  | .error .unreadable => .broken request []
  | .ok text => Calculation.textReply depth request evaluate text

end Abacus.Server
