/-
Module: Abacus.Http.Head
Purpose: The head of a request as it is sent, and how it is read: the first line with the method,
  the target and the version, and the fields, each on a line of its own.
Main exports: Head, Request.sentHead, Head.read
-/
import Abacus.Http.HeadFault
import Abacus.Http.Message
import Abacus.Http.Parameter
import Abacus.Http.Target
import Abacus.Text.Utf8

namespace Abacus.Http

/-- What the head of a request says. -/
structure Head where
  method : String
  target : String
  fields : List (String × String)
deriving DecidableEq, Repr, Inhabited

/-! ### Sending -/

/-- The head of a request as a client sends it: the name of the server stands before the fields,
and the length of the body behind them. -/
def Request.sentHead (request : Request) : String :=
  let fields := ("Host", "localhost") :: request.headers
    ++ [("Content-Length", toString request.body.length)]
  let lines := s!"{request.method} {request.target} HTTP/1.1"
    :: fields.map fun field => s!"{field.1}: {field.2}"
  "".intercalate (lines.map (· ++ "\r\n")) ++ "\r\n"

/-- The bytes of a text in UTF-8, as one character each. -/
def byteChars (text : String) : List Char :=
  text.toUTF8.toList.map fun byte => Char.ofNat byte.toNat

/-- The text of characters that stand for one byte each. -/
def ofByteChars (bytes : List Char) : String :=
  match Text.Utf8.decode (bytes.map fun c => UInt8.ofNat c.toNat) with
  | .ok text => String.ofList text
  | .error _ => String.ofList bytes

/-! ### The first line -/

/-- What reading stops with: the reason and what follows from the place on. -/
abbrev Fail :=
  HeadReason × List Char

/-- The methods of HTTP. -/
def httpMethods : List String :=
  ["DELETE", "GET", "HEAD", "POST", "PUT", "CONNECT", "OPTIONS", "TRACE", "COPY", "LOCK", "MKCOL",
   "MOVE", "PROPFIND", "PROPPATCH", "SEARCH", "UNLOCK", "BIND", "REBIND", "UNBIND", "ACL",
   "REPORT", "MKACTIVITY", "CHECKOUT", "MERGE", "M-SEARCH", "NOTIFY", "SUBSCRIBE",
   "UNSUBSCRIBE", "PATCH", "PURGE", "MKCALENDAR", "LINK", "UNLINK", "PRI", "SOURCE", "QUERY"]

/-- The methods that belong to another protocol. -/
def otherMethods : List String :=
  ["DESCRIBE", "ANNOUNCE", "SETUP", "PLAY", "PAUSE", "TEARDOWN", "GET_PARAMETER",
   "SET_PARAMETER", "REDIRECT", "RECORD", "FLUSH"]

/-- The length of the longest start of a text that is also a start of one of the words. -/
def commonLength (words : List (List Char)) : List Char → Nat
  | [] => 0
  | c :: rest =>
      let next := words.filterMap fun word =>
        match word with
        | d :: more => if d = c then some more else none
        | [] => none
      if next = [] then 0 else commonLength next rest + 1

/-- Takes one of the words; what does not go on with any of them is the place of the fault. -/
def takeWord (reason : HeadReason) (words : List String) (s : List Char) :
    Except Fail (String × List Char) :=
  let length := commonLength (words.map String.toList) s
  let word := String.ofList (s.take length)
  if word ∈ words then .ok (word, s.drop length) else .error (reason, s.drop length)

/-- Whether a character may stand in a target as it is. -/
def isTargetChar (c : Char) : Bool :=
  '!' ≤ c && c ≤ '~' && c ≠ '#' && c ≠ '?'

/-- Whether a character may stand in the name of a user. -/
def isUserChar (c : Char) : Bool :=
  c.isAlphanum || c ∈ "-_.!~*'()%;:&=+$,".toList

/-- Whether a character ends a target. -/
def isTargetEnd (c : Char) : Bool :=
  c = ' ' || c = '\r' || c = '\n'

/-- What follows the fragment of a target. -/
def skipFragment (s : List Char) : Except Fail (List Char) :=
  let rest := s.dropWhile fun c => isTargetChar c || c = '#' || c = '?'
  match rest with
  | [] => .ok []
  | c :: _ => if isTargetEnd c then .ok rest else .error (.fragment, rest)

/-- What follows the query of a target. -/
def skipQuery (s : List Char) : Except Fail (List Char) :=
  let rest := s.dropWhile fun c => isTargetChar c || c = '?'
  match rest with
  | [] => .ok []
  | '#' :: more => skipFragment more
  | c :: _ => if isTargetEnd c then .ok rest else .error (.query, rest)

/-- What follows a target, from its path on. -/
def skipPath (s : List Char) : Except Fail (List Char) :=
  let rest := s.dropWhile isTargetChar
  match rest with
  | [] => .ok []
  | '?' :: more => skipQuery more
  | '#' :: more => skipFragment more
  | c :: _ => if isTargetEnd c then .ok rest else .error (.path, rest)

/-- What follows a target, from the name of the server on. -/
def skipAuthority (seenAt : Bool) (s : List Char) : Except Fail (List Char) :=
  match s with
  | [] => .ok []
  | c :: rest =>
      if c = '/' then skipPath s
      else if c = '?' then skipQuery rest
      else if isTargetEnd c then .ok s
      else if c = '@' then
        if seenAt then .error (.secondAt, rest) else skipAuthority true rest
      else if isUserChar c ∨ c = '[' ∨ c = ']' then skipAuthority seenAt rest
      else .error (.authority, s)

/-- The fault at the start of a target, where a character of another kind should stand. A
character that ends the target is taken first. -/
def startFault (reason : HeadReason) (s : List Char) : Fail :=
  match s with
  | [] => (reason, [])
  | c :: rest => if isTargetEnd c then (.targetBreak, rest) else (reason, s)

/-- What follows a target that begins with a scheme. -/
def skipScheme (s : List Char) : Except Fail (List Char) :=
  match s.dropWhile Char.isAlpha with
  | ':' :: '/' :: '/' :: more => skipAuthority false more
  | ':' :: '/' :: more => .error (.scheme, more)
  | ':' :: more => .error (startFault .scheme more)
  | rest => .error (startFault .scheme rest)

/-- What follows the target of a request with the given method. -/
def skipTarget (method : String) (s : List Char) : Except Fail (List Char) :=
  if method = "CONNECT" then skipAuthority false s
  else
    match s with
    | '/' :: _ | '*' :: _ => skipPath s
    | _ =>
        if (s.head?.map Char.isAlpha).getD false then skipScheme s
        else .error (startFault .targetStart s)

/-- Takes one character of a class. -/
def takeChar (reason : HeadReason) (accepts : Char → Bool) (s : List Char) :
    Except Fail (Char × List Char) :=
  match s with
  | [] => .error (reason, [])
  | c :: rest => if accepts c then .ok (c, rest) else .error (reason, s)

/-- What follows the version at the end of the first line. -/
def skipVersion (method : String) (s : List Char) : Except Fail (List Char) := do
  let (protocol, s) ← takeWord .protocol ["HTTP/", "RTSP/", "ICE/"] s
  if protocol = "HTTP/" ∧ method ∉ httpMethods then throw (.protocolMethod, s)
  let (major, s) ← takeChar .majorVersion Char.isDigit s
  let (_, s) ← takeChar .versionPoint (· = '.') s
  let (minor, s) ← takeChar .minorVersion Char.isDigit s
  if (major, minor) ∉ [('0', '9'), ('1', '0'), ('1', '1'), ('2', '0')] then throw (.version, s)
  match s with
  | '\r' :: '\n' :: rest => return rest
  | _ => throw (.versionEnd, s)

/-- Takes the first line: the method, the target, and what follows. -/
def takeFirstLine (s : List Char) : Except Fail ((String × List Char) × List Char) := do
  let (method, s) ← takeWord .method (httpMethods ++ otherMethods) s
  let (_, s) ← takeChar .methodEnd (· = ' ') s
  let start := s.dropWhile (· = ' ')
  let rest ← skipTarget method start
  let target := start.take (start.length - rest.length)
  let rest ← skipVersion method (rest.dropWhile (· = ' '))
  return ((method, target), rest)

/-! ### Fields -/

/-- Whether a character may stand in the name of a field. -/
def isFieldNameChar (c : Char) : Bool :=
  c.isAlphanum || c ∈ "!#$%&'*+-.^_\x60|~".toList

/-- Whether a byte may stand in the value of a field. -/
def isFieldChar (c : Char) : Bool :=
  c = '\t' || (' ' ≤ c && c ≠ '\x7f')

/-- The names of the fields that say how the body is sent. -/
def framingNames : List String :=
  ["connection", "content-length", "proxy-connection", "transfer-encoding", "upgrade"]

/-- A field as it is sent. -/
structure Field where
  name : List Char
  value : List Char
deriving DecidableEq, Repr, Inhabited

/-- The name of a field, without regard to case. -/
def plainFieldName (name : List Char) : String :=
  Text.lower (String.ofList name)

/-- Whether a field of the given name is there. -/
def holds (fields : List Field) (name : String) : Bool :=
  fields.any fun field => plainFieldName field.name = name

/-- Takes the name of a field and the colon. -/
def takeFieldName (s : List Char) : Except Fail (List Char × List Char) :=
  let name := s.takeWhile isFieldNameChar
  let rest := s.dropWhile isFieldNameChar
  match name, rest with
  | _ :: _, ':' :: rest => .ok (name, rest)
  | _ :: _, ' ' :: _ =>
      if plainFieldName name ∈ framingNames then .error (.fieldNameEnd, rest)
      else .error (.fieldName, rest)
  | _, _ => .error (.fieldName, rest)

/-- Checks behind the colon of a field that the body is not sent in two ways. -/
def checkFraming (fields : List Field) (name : String) (s : List Char) : Except Fail Unit :=
  if name = "content-length" ∧ holds fields "transfer-encoding" then
    .error (.lengthWithCoding, s)
  else if name = "transfer-encoding" ∧ holds fields "content-length" then
    .error (.codingWithLength, s)
  else .ok ()

/-- Checks the value of a length: there is one length only, and it is made of digits. -/
def checkLength (fields : List Field) (name : String) (s : List Char) : Except Fail Unit :=
  if name ≠ "content-length" then .ok ()
  else if holds fields "content-length" then .error (.lengthAgain, s)
  else
    match s with
    | '\r' :: _ => .error (.lengthEmpty, s)
    | c :: _ =>
        if ¬c.isDigit then .error (.lengthDigit, s)
        else
          match (s.dropWhile Char.isDigit).dropWhile isSpace with
          | '\r' :: _ | '\n' :: _ => .ok ()
          | rest => .error (.lengthDigit, rest)
    | [] => .ok ()

/-- Takes the end of the line of a field; no white space may follow it. -/
def takeFieldEnd (s : List Char) : Except Fail (List Char) :=
  match s with
  | '\r' :: '\n' :: rest =>
      if (rest.head?.map isSpace).getD false then .error (.foldedField, rest) else .ok rest
  | '\r' :: rest => .error (.fieldFeed, rest)
  | '\n' :: _ => .error (.fieldReturn, s)
  | _ => .error (.fieldValue, s)

/-- The text without spaces and tabs at its end. -/
def trimEnd (text : List Char) : List Char :=
  (text.reverse.dropWhile isSpace).reverse

/-- Takes the fields up to the empty line, at most as many as `budget`; those that have been read
are given. -/
def takeFields : (budget : Nat) → List Field → List Char → Except Fail (List Field × List Char)
  | 0, fields, s => .ok (fields, s)
  | _, fields, '\r' :: '\n' :: rest => .ok (fields, rest)
  | budget + 1, fields, s => do
      let (name, s) ← takeFieldName s
      checkFraming fields (plainFieldName name) s
      let s := s.dropWhile isSpace
      checkLength fields (plainFieldName name) s
      let value := trimEnd (s.takeWhile isFieldChar)
      let rest ← takeFieldEnd (s.dropWhile isFieldChar)
      takeFields budget (fields ++ [⟨name, value⟩]) rest

/-! ### The whole head -/

/-- The names of the fields that may stand once only. -/
def singleFields : List String :=
  ["Content-Length", "Content-Location", "Content-Range", "Content-Type", "ETag", "Host",
   "Max-Forwards", "Server", "Transfer-Encoding", "User-Agent"]

/-- The first name of those that may stand once only and is there twice. -/
def duplicate? (fields : List Field) : Option String :=
  singleFields.find? fun name =>
    1 < fields.countP fun field => plainFieldName field.name = Text.lower name

/-- A fault with its place in what was sent. -/
def placed (sent : List Char) (fail : Fail) : HeadFault :=
  .malformed ⟨fail.1, sent.take (sent.length - fail.2.length), fail.2⟩

/-- Refuses texts that are longer than fields may be. -/
def checkSize (text : List Char) : Except HeadFault Unit :=
  if maxFieldSize < text.length then .error (.tooLong text) else .ok ()

/-- Reads a head, as the last releases of aiohttp 3.13 do with the parser llhttp. Older ones have
other words for fields that are too long, and pass fields that stand twice. -/
def Head.read (sent : List Char) : Except HeadFault Head := do
  let ((method, target), rest) ← (takeFirstLine sent).mapError (placed sent)
  checkSize target
  if (targetPath? method target).isNone then throw (.target (ofByteChars target))
  let (fields, _) ← (takeFields rest.length [] rest).mapError (placed sent)
  fields.forM fun field => do
    checkSize field.name
    checkSize field.value
  match duplicate? fields with
  | some name => throw (.duplicate name)
  | none =>
      return {
        method
        target := ofByteChars target
        fields := fields.map fun field => (ofByteChars field.name, ofByteChars field.value) }

end Abacus.Http
