/-
Module: Abacus.Http.Target
Purpose: The path that a request asks for. Escapes by number are read as UTF-8; what is no
  character stays as it was sent. A slash that was sent as an escape is kept apart from one that
  was sent plainly until the path has been matched.
Main exports: targetPath?, unescapePath, plainText
-/
import Abacus.Text.Hex
import Abacus.Text.Utf8

namespace Abacus.Http

open Text (hexValue?)
open Text.Utf8 (Pending start)

/-- The part of a target of this server that is its path: all before the first question mark, or,
if there is none, before the first number sign. -/
def localPath (target : List Char) : List Char :=
  if '?' ∈ target then target.takeWhile (· ≠ '?') else target.takeWhile (· ≠ '#')

/-- The path of a target that names a scheme and a server, from behind the scheme: what stands
between the server and the first question mark or number sign. -/
def remotePath (place : List Char) : List Char :=
  let isEnd (c : Char) : Bool := c = '?' || c = '#'
  let path := (place.dropWhile fun c => c ≠ '/' && !isEnd c).takeWhile fun c => !isEnd c
  if path = [] then ['/'] else path

/-- The path that a target asks for, if it is a path or names a server. An asterisk stands for the
whole server and is a target of one method only; another method has a server for its target, and
no path. So aiohttp 3.13 finds it, with yarl 1.22. -/
def targetPath? (method : String) (target : List Char) : Option (List Char) :=
  match target with
  | '/' :: _ => some (localPath target)
  | _ =>
      if method = "CONNECT" then some []
      else if target = ['*'] ∧ method = "OPTIONS" then some target
      else
        match target.dropWhile Char.isAlpha with
        | ':' :: '/' :: '/' :: place => some (remotePath place)
        | _ => none

/-- A character that was sent as an escape. Slash and percent sign stay escaped. -/
def keepEscaped (c : Char) : List Char :=
  if c = '/' then ['%', '2', 'F']
  else if c = '%' then ['%', '2', '5']
  else [c]

/-- A character of which some bytes have been sent, with the text they were sent in. -/
structure Begun where
  pending : Pending
  sent : List Char
deriving DecidableEq, Repr, Inhabited

/-- The text in which the begun character was sent. -/
def sentText : Option Begun → List Char
  | none => []
  | some begun => begun.sent

/-- Takes the first byte of a character: what can be written, and what is begun. -/
def firstByte (byte : UInt8) (sent : List Char) : List Char × Option Begun :=
  match start byte with
  | .character c => (keepEscaped c, none)
  | .pending p => ([], some ⟨p, sent⟩)
  | .refused => (sent, none)

/-- Takes one byte. If it does not go on with the character that was begun, that one is written
as it was sent. -/
def takeByte (begun : Option Begun) (byte : UInt8) (sent : List Char) :
    List Char × Option Begun :=
  match begun with
  | none => firstByte byte sent
  | some b =>
      match b.pending.push byte with
      | .character c => (keepEscaped c, none)
      | .pending p => ([], some ⟨p, b.sent ++ sent⟩)
      | .refused =>
          let (written, next) := firstByte byte sent
          (b.sent ++ written, next)

/-- The byte of an escape with the given two digits. -/
def escapedByte? (a b : Char) : Option UInt8 := do
  let high ← hexValue? a
  let low ← hexValue? b
  some (UInt8.ofNat (high * 16 + low))

/-- Reads the rest of a path, with the character that is begun. -/
def unescapeFrom (begun : Option Begun) : List Char → List Char
  | [] => sentText begun
  | '%' :: a :: b :: rest =>
      match escapedByte? a b with
      | some byte =>
          let (written, next) := takeByte begun byte ['%', a, b]
          written ++ unescapeFrom next rest
      | none => sentText begun ++ '%' :: unescapeFrom none (a :: b :: rest)
  | c :: rest => sentText begun ++ c :: unescapeFrom none rest

/-- A path with its escapes read, except those of slashes and percent signs. -/
def unescapePath (path : List Char) : List Char :=
  unescapeFrom none path

/-- A part of an unescaped path with the remaining escapes read as well. -/
def plainText : List Char → List Char
  | '%' :: '2' :: 'F' :: rest => '/' :: plainText rest
  | '%' :: '2' :: '5' :: rest => '%' :: plainText rest
  | c :: rest => c :: plainText rest
  | [] => []

end Abacus.Http
