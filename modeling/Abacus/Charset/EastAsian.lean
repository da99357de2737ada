/-
Module: Abacus.Charset.EastAsian
Purpose: The charsets of Chinese, Japanese and Korean and their names.
Main exports: EastAsian, EastAsian.decode?, EastAsian.named
-/
import Abacus.Charset.Switching

namespace Abacus.Charset

/-- The charsets of Chinese, Japanese and Korean. -/
inductive EastAsian where
  | big5
  | windowsBig5
  | hongKong
  | gb2312
  | gbk
  | gb18030
  | tilde
  | shifted
  | windowsShifted
  | shifted0213 (edition : JisEdition)
  | extended
  | extended0213 (edition : JisEdition)
  | wansung
  | unifiedHangul
  | johab
  | switching (scheme : Scheme)
deriving DecidableEq, Repr, Inhabited

/-- A way to read texts and the state that it starts in. -/
structure Procedure where
  {State : Type}
  read : Reading State
  start : State

namespace EastAsian

/-- How the texts of a charset are read. -/
def procedure : EastAsian → Procedure
  | big5 => ⟨readBig5, ()⟩
  | windowsBig5 => ⟨readWindowsBig5, ()⟩
  | hongKong => ⟨readHongKong, ()⟩
  | gb2312 => ⟨readGb2312, ()⟩
  | gbk => ⟨readGbk, ()⟩
  | gb18030 => ⟨readGb18030, ()⟩
  | tilde => ⟨readTilde, false⟩
  | shifted => ⟨readShifted, ()⟩
  | windowsShifted => ⟨readWindowsShifted, ()⟩
  | shifted0213 edition => ⟨readShifted0213 edition, ()⟩
  | extended => ⟨readExtended, ()⟩
  | extended0213 edition => ⟨readExtended0213 edition, ()⟩
  | wansung => ⟨readWansung, ()⟩
  | unifiedHangul => ⟨readUnifiedHangul, ()⟩
  | johab => ⟨readJohab, ()⟩
  | switching scheme => ⟨scheme.read, {}⟩

/-- The text of bytes, or none. -/
def decode? (charset : EastAsian) (bytes : List UInt8) : Option (List Char) :=
  charset.procedure.read.decode? charset.procedure.start bytes

/-- The text of bytes, with the replacement character for bytes that stand for nothing. -/
def decodeMarking (charset : EastAsian) (bytes : List UInt8) : List Char :=
  charset.procedure.read.decodeMarking charset.procedure.start bytes

/-- The charsets of Chinese with their main names and their other names. -/
def chinese : List (EastAsian × String × List String) :=
  [(big5, "big5", ["big5_tw", "csbig5", "x_mac_trad_chinese"]),
   (hongKong, "big5hkscs", ["big5_hkscs", "hkscs"]),
   (windowsBig5, "cp950", ["950", "ms950"]),
   (gb18030, "gb18030", ["gb18030_2000"]),
   (gb2312, "gb2312", ["chinese", "csiso58gb231280", "euc_cn", "euccn", "eucgb2312_cn",
     "gb2312_1980", "gb2312_80", "iso_ir_58", "x_mac_simp_chinese"]),
   (gbk, "gbk", ["936", "cp936", "ms936"]),
   (tilde, "hz", ["hzgb", "hz_gb", "hz_gb_2312"])]

/-- The charsets of Korean. -/
def korean : List (EastAsian × String × List String) :=
  [(unifiedHangul, "cp949", ["949", "ms949", "uhc"]),
   (wansung, "euc_kr", ["euckr", "korean", "ksc5601", "ks_c_5601", "ks_c_5601_1987", "ksx1001",
     "ks_x_1001", "x_mac_korean"]),
   (switching koreanScheme, "iso2022_kr",
     ["csiso2022kr", "iso2022kr", "iso_2022_kr"]),
   (johab, "johab", ["cp1361", "ms1361"])]

/-- The charsets of Japanese. -/
def japanese : List (EastAsian × String × List String) :=
  [(windowsShifted, "cp932", ["932", "ms932", "mskanji", "ms_kanji"]),
   (extended0213 .second, "euc_jis_2004", ["jisx0213", "eucjis2004", "euc_jis2004"]),
   (extended0213 .first, "euc_jisx0213", ["eucjisx0213"]),
   (extended, "euc_jp", ["eucjp", "ujis", "u_jis"]),
   (shifted, "shift_jis", ["csshiftjis", "shiftjis", "sjis", "s_jis", "x_mac_japanese"]),
   (shifted0213 .second, "shift_jis_2004", ["shiftjis2004", "sjis_2004", "s_jis_2004"]),
   (shifted0213 .first, "shift_jisx0213", ["shiftjisx0213", "sjisx0213", "s_jisx0213"])]

/-- The charsets of Japanese in seven bits. -/
def japaneseSwitching : List (EastAsian × String × List String) :=
  [(switching japaneseScheme, "iso2022_jp", ["csiso2022jp", "iso2022jp", "iso_2022_jp"]),
   (switching supplementedScheme, "iso2022_jp_1", ["iso2022jp_1", "iso_2022_jp_1"]),
   (switching multilingualScheme, "iso2022_jp_2", ["iso2022jp_2", "iso_2022_jp_2"]),
   (switching (planesScheme .second), "iso2022_jp_2004", ["iso_2022_jp_2004", "iso2022jp_2004"]),
   (switching (planesScheme .first), "iso2022_jp_3", ["iso2022jp_3", "iso_2022_jp_3"]),
   (switching halfWidthScheme, "iso2022_jp_ext", ["iso2022jp_ext", "iso_2022_jp_ext"])]

/-- All charsets of Chinese, Japanese and Korean. -/
def named : List (EastAsian × String × List String) :=
  chinese ++ korean ++ japanese ++ japaneseSwitching

end EastAsian

end Abacus.Charset
