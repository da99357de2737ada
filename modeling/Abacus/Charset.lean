/-
Module: Abacus.Charset
Purpose: Charsets: which one a name stands for, and the text that bytes stand for in it.
Main exports: Charset, Charset.ofName?, Charset.decode?
-/
import Abacus.Charset.EastAsian
import Abacus.Charset.Escaped
import Abacus.Charset.Name
import Abacus.Charset.Page.Dos
import Abacus.Charset.Page.Ebcdic
import Abacus.Charset.Page.Iso
import Abacus.Charset.Page.Mac
import Abacus.Charset.Page.National
import Abacus.Charset.Page.Windows
import Abacus.Charset.Punycode
import Abacus.Charset.Utf7
import Abacus.Text.Utf8

namespace Abacus

/-- The charsets of texts. Where no order of bytes is given, a mark at the start tells it. -/
inductive Charset where
  | utf7
  | utf8
  | utf8Marked
  | utf16 (order : Option Charset.ByteOrder)
  | utf32 (order : Option Charset.ByteOrder)
  | ascii
  | latin1
  | page (table : Charset.Page)
  | eastAsian (charset : Charset.EastAsian)
  | escaped
  | numberEscaped
  | punycode
  | domain
deriving DecidableEq, Repr, Inhabited

namespace Charset

/-- The charsets that are neither code pages nor East Asian, with their main names and their other
names. -/
def named : List (Charset × String × List String) :=
  [(utf8, "utf_8", ["u8", "utf", "utf8", "utf8_ucs2", "utf8_ucs4", "cp65001"]),
   (utf8Marked, "utf_8_sig", []),
   (ascii, "ascii", ["646", "ansi_x3.4_1968", "ansi_x3_4_1968", "ansi_x3.4_1986", "cp367",
     "csascii", "ibm367", "iso646_us", "iso_646.irv_1991", "iso_ir_6", "us", "us_ascii"]),
   (latin1, "latin_1", ["8859", "cp819", "csisolatin1", "ibm819", "iso8859", "iso8859_1",
     "iso_8859_1", "iso_8859_1_1987", "iso_ir_100", "l1", "latin", "latin1"]),
   (latin1, "charmap", []),
   (utf7, "utf_7", ["u7", "utf7", "unicode_1_1_utf_7"]),
   (utf16 none, "utf_16", ["u16", "utf16"]),
   (utf16 (some .little), "utf_16_le", ["unicodelittleunmarked", "utf_16le"]),
   (utf16 (some .big), "utf_16_be", ["unicodebigunmarked", "utf_16be"]),
   (utf32 none, "utf_32", ["u32", "utf32"]),
   (utf32 (some .little), "utf_32_le", ["utf_32le"]),
   (utf32 (some .big), "utf_32_be", ["utf_32be"]),
   (escaped, "unicode_escape", []),
   (numberEscaped, "raw_unicode_escape", []),
   (punycode, "punycode", []),
   (domain, "idna", [])]

/-- The code pages. -/
def pages : List Page :=
  isoPages ++ windowsPages ++ dosPages ++ macPages ++ ebcdicPages ++ nationalPages

/-- The charset that a name stands for. -/
def ofName? (name : String) : Option Charset :=
  let plain := plainName name
  match named.find? fun entry => isNamed entry.2.1 entry.2.2 plain with
  | some entry => some entry.1
  | none =>
      match EastAsian.named.find? fun entry => isNamed entry.2.1 entry.2.2 plain with
      | some entry => some (eastAsian entry.1)
      | none => page <$> pages.find? fun p => isNamed p.name p.aliases plain

/-- The text that bytes stand for, or none. -/
def decode? (charset : Charset) (bytes : List UInt8) : Option (List Char) :=
  match charset with
  | utf7 => decode7? bytes
  | utf8 => (Text.Utf8.decode bytes).toOption
  | utf8Marked =>
      match bytes with
      | 0xEF :: 0xBB :: 0xBF :: rest => (Text.Utf8.decode rest).toOption
      | _ => (Text.Utf8.decode bytes).toOption
  | utf16 order => decode16? order bytes
  | utf32 order => decode32? order bytes
  | ascii => decodeAscii? bytes
  | latin1 => some (bytes.map fun byte => Char.ofNat byte.toNat)
  | page p => p.decode? bytes
  | eastAsian charset => charset.decode? bytes
  | escaped => decodeEscapes? bytes
  | numberEscaped => decodeNumberEscapes? bytes
  | punycode => decodePunycode? bytes
  | domain => decodeDomain? bytes

/-- The text that bytes stand for, with the replacement character for bytes above ASCII that
stand for nothing; none if they are no text even so. -/
def decodeMarking? (charset : Charset) (bytes : List UInt8) : Option (List Char) :=
  let marked := bytes.map fun byte => if byte < 0x80 then Char.ofNat byte.toNat else '\ufffd'
  match charset, charset.decode? bytes with
  | _, some text => some text
  | page p, none => some (p.decodeMarking bytes)
  | eastAsian charset, none => some (charset.decodeMarking bytes)
  | ascii, none | utf8, none | utf8Marked, none => some marked
  | _, none => none

end Charset

end Abacus
