/-
Module: Abacus.Charset.Page
Purpose: Code pages: charsets in which every character is one byte. Most of them begin with
  ASCII, and their tables hold the second half only.
Main exports: Page, Page.decode?
-/

namespace Abacus.Charset

/-- A code page. The rows hold its characters in order, up to that of byte 255; the replacement
character stands where there is none. The bytes before them are those of ASCII. -/
structure Page where
  name : String
  /-- Its other names. -/
  aliases : List String := []
  rows : List String
deriving DecidableEq, Repr, Inhabited

namespace Page

/-- The characters of the table. -/
def table (page : Page) : Array Char :=
  (page.rows.flatMap String.toList).toArray

/-- The character of a byte in a table whose last character is that of byte 255. -/
def charIn? (table : Array Char) (byte : UInt8) : Option Char :=
  let first := 256 - table.size
  if byte.toNat < first then some (Char.ofNat byte.toNat)
  else (table[byte.toNat - first]?).filter (· ≠ '\ufffd')

/-- The text of bytes; none if one of them has no character. -/
def decode? (page : Page) (bytes : List UInt8) : Option (List Char) :=
  let table := page.table
  bytes.mapM (charIn? table)

/-- The text of bytes, with the replacement character for those that have none. -/
def decodeMarking (page : Page) (bytes : List UInt8) : List Char :=
  let table := page.table
  bytes.map fun byte => (charIn? table byte).getD '\ufffd'

end Page

end Abacus.Charset
