/-
Module: Abacus.Http.Coding
Purpose: Bodies that are sent compressed, and what can be read of them.
Main exports: Coding, Request.codingFault?, Request.content
-/
import Abacus.Deflate.Frame
import Abacus.Http.HeadFault
import Abacus.Http.Message

namespace Abacus.Http

/-- The ways in which a body may be compressed. -/
inductive Coding where
  | gzip
  | deflate
  | brotli
  | zstandard
deriving DecidableEq, Repr, Inhabited

namespace Coding

/-- The ways by their names. -/
def names : List (String × Coding) :=
  [("gzip", gzip), ("deflate", deflate), ("br", brotli), ("zstd", zstandard)]

/-- The way of a name, without regard to case. -/
def ofName? (name : String) : Option Coding :=
  names.lookup (Text.lower name)

/-- Reads a body. Blocks without a frame are known by their first byte. -/
def unpack (coding : Coding) (body : List UInt8) : Deflate.Unpacked :=
  match coding with
  | gzip => Deflate.unpackGzip body
  | deflate =>
      match body with
      | first :: _ =>
          if first &&& 0x0F = 8 then Deflate.unpackZlib body else Deflate.unpackPlain body
      | [] => ⟨#[], some .cut⟩
  | brotli | zstandard => ⟨body.toArray, none⟩

end Coding

/-- How the body of a request is compressed; the last header counts, and other names than the
known ones do not. -/
def Request.coding? (request : Request) : Option Coding :=
  let values := request.headers.filter fun header => Text.lower header.1 = "content-encoding"
  values.getLast?.bind fun header => Coding.ofName? header.2

/-- Why a request with a compressed body is refused before it is handled. -/
def Request.codingFault? (request : Request) : Option HeadFault :=
  match request.coding? with
  | some .brotli => some (.unreadableCoding "brotli (br)" "Brotli")
  | some .zstandard => some (.unreadableCoding "zstandard (zstd)" "backports.zstd")
  | some .deflate =>
      if request.body = [] then none
      else
        match (Coding.unpack .deflate request.body).stop with
        | some .cut => some .cutBody
        | _ => none
  | _ => none

/-- Why a body cannot be read. -/
inductive BodyFault where
  | corrupt
  | tooLarge (size : Nat)
deriving DecidableEq, Repr, Inhabited

/-- A body must have fewer bytes than this. -/
def maxBodySize : Nat :=
  1048576

/-- The body of a request as it was before it was compressed, as aiohttp 3.13 hands it to what
handles the request. Data that is cut off counts as far as it can be read. -/
def Request.content (request : Request) : Except BodyFault (List UInt8) := do
  let content ← match request.coding? with
    | none => pure request.body
    | some coding =>
        if request.body = [] then pure []
        else
          let unpacked := coding.unpack request.body
          if unpacked.stop = some .corrupt then throw .corrupt else pure unpacked.data.toList
  if maxBodySize ≤ content.length then throw (.tooLarge content.length)
  return content

end Abacus.Http
