/-
Module: Abacus.Http.HeadFault
Purpose: Why the head of a request is refused, in words that show the place: the line in which the
  fault was found, and a mark below it.
Main exports: HeadReason, Malformed, HeadFault, HeadFault.message
-/
import Abacus.Text.Hex

namespace Abacus.Http

/-- What is wrong in the head of a request. -/
inductive HeadReason where
  | method
  | methodEnd
  | targetStart
  | targetBreak
  | scheme
  | authority
  | secondAt
  | path
  | query
  | fragment
  | protocol
  | protocolMethod
  | majorVersion
  | versionPoint
  | minorVersion
  | version
  | versionEnd
  | fieldName
  | fieldNameEnd
  | fieldValue
  | fieldReturn
  | fieldFeed
  | foldedField
  | lengthEmpty
  | lengthDigit
  | lengthAgain
  | lengthWithCoding
  | codingWithLength
deriving DecidableEq, Repr, Inhabited

namespace HeadReason

/-- The words for a reason. -/
def text : HeadReason → String
  | method => "Invalid method encountered"
  | methodEnd => "Expected space after method"
  | targetStart => "Unexpected start char in url"
  | targetBreak => "Unexpected space after start"
  | scheme => "Unexpected char in url schema"
  | authority => "Unexpected char in url server"
  | secondAt => "Double @ in url"
  | path => "Invalid char in url path"
  | query => "Invalid char in url query"
  | fragment => "Invalid char in url fragment start"
  | protocol => "Expected HTTP/, RTSP/ or ICE/"
  | protocolMethod => "Invalid method for HTTP/x.x request"
  | majorVersion => "Invalid major version"
  | versionPoint => "Expected dot"
  | minorVersion => "Invalid minor version"
  | version => "Invalid HTTP version"
  | versionEnd => "Expected CRLF after version"
  | fieldName => "Invalid header token"
  | fieldNameEnd => "Invalid header field char"
  | fieldValue => "Invalid header value char"
  | fieldReturn => "Missing expected CR after header value"
  | fieldFeed => "Missing expected LF after header value"
  | foldedField => "Unexpected whitespace after header value"
  | lengthEmpty => "Empty Content-Length"
  | lengthDigit => "Invalid character in Content-Length"
  | lengthAgain => "Content-Length already present"
  | lengthWithCoding => "Content-Length can't be present with Transfer-Encoding"
  | codingWithLength => "Transfer-Encoding can't be present with Content-Length"

/-- Whether the fault lies in what the first line says of the protocol. -/
def isProtocol : HeadReason → Bool
  | protocol | protocolMethod | majorVersion | versionPoint | minorVersion | version
  | versionEnd => true
  | _ => false

end HeadReason

/-- A fault and its place. Every character of the texts stands for one byte. -/
structure Malformed where
  reason : HeadReason
  /-- What had been read before the place. -/
  before : List Char
  /-- What follows from the place on. -/
  rest : List Char
deriving DecidableEq, Repr, Inhabited

/-- One byte as it is shown between the given marks. -/
def shownByte (mark c : Char) : List Char :=
  if c = mark ∨ c = '\\' then ['\\', c]
  else if c = '\t' then ['\\', 't']
  else if c = '\n' then ['\\', 'n']
  else if c = '\r' then ['\\', 'r']
  else if ' ' ≤ c ∧ c ≤ '~' then [c]
  else '\\' :: 'x' :: Text.hex 2 c.toNat

/-- Bytes as they are shown: with the letter b in front, between apostrophes, or between
quotation marks if there is an apostrophe and no quotation mark among them. -/
def shownBytes (bytes : List Char) : List Char :=
  let mark := if '\'' ∈ bytes ∧ '"' ∉ bytes then '"' else '\''
  'b' :: mark :: bytes.flatMap (shownByte mark) ++ [mark]

/-- The text up to the first end of line. -/
def firstLine : List Char → List Char
  | [] => []
  | '\r' :: '\n' :: _ => []
  | c :: rest => c :: firstLine rest

/-- The text behind the last end of line, if there is one. -/
def behindLast? : List Char → Option (List Char)
  | [] => none
  | '\r' :: '\n' :: rest => some ((behindLast? rest).getD rest)
  | _ :: rest => behindLast? rest

namespace Malformed

/-- The message: the reason, the line of the fault, and below it a mark at the place. -/
def message (fault : Malformed) : String :=
  let before := (behindLast? fault.before).getD fault.before
  let line := before ++ firstLine (fault.rest.takeWhile (· ≠ '\x00'))
  let mark := List.replicate ((shownBytes before).length - 1) ' ' ++ ['^']
  let text := s!"{fault.reason.text}:\n\n  {String.ofList (shownBytes line)}\n  " ++
    String.ofList mark
  if fault.reason.isProtocol then s!"Bad status line:\n  {text}" else text

end Malformed

/-- Why the head of a request is refused. -/
inductive HeadFault where
  | malformed (fault : Malformed)
  /-- The target or a field is too long. -/
  | tooLong (text : List Char)
  /-- A field that may stand once only stands there again. -/
  | duplicate (name : String)
  /-- The target names neither a path nor a place in the network. -/
  | target (text : String)
  /-- A compressed body can be read only by a library that is not there. -/
  | unreadableCoding (description library : String)
  /-- A compressed body ends too early. -/
  | cutBody
deriving DecidableEq, Repr, Inhabited

/-- How many bytes a target or a field may have. -/
def maxFieldSize : Nat :=
  8190

/-- The words for a fault. -/
def HeadFault.message : HeadFault → String
  | malformed fault => fault.message
  | tooLong text =>
      let shown := String.ofList (shownBytes (text.take 100 ++ "...".toList))
      s!"Got more than {maxFieldSize} bytes when reading: {shown}."
  | duplicate name => s!"Duplicate '{name}' header found."
  | target text => text
  | cutBody => "deflate"
  | unreadableCoding description library =>
      s!"Can not decode content-encoding: {description}. Please install " ++
        s!"\x60{library}\x60"

end Abacus.Http
