/-
Module: Abacus.Proofs.SentHeads
Purpose: Heads of requests, from the client to the server. A request for a path is received as it
  was sent: its head has one first line, and behind it the two fields that every client sends.
Main exports: Http.byteChars_of_isAscii, Http.takeFirstLine_get, Http.Head.read_eq_ok,
  Http.read_get, Server.Service.received_eq_ok, Server.Service.received_get
-/
import Mathlib.Data.Bool.AllAny
import Mathlib.Data.List.Nodup
import Abacus.Proofs.EncodedText
import Abacus.Server.Service

namespace Abacus

namespace Http

/-! ### Texts of ASCII -/

/-- A text of characters of ASCII. -/
def IsAscii (text : List Char) : Prop :=
  ∀ c ∈ text, c.toNat < 0x80

theorem utf8EncodeChar_of_lt {c : Char} (h : c.toNat < 0x80) :
    String.utf8EncodeChar c = [UInt8.ofNat c.toNat] := by
  have hone : c.val.toNat ≤ 0x7F := Nat.le_of_lt_succ h
  rw [String.utf8EncodeChar]
  simp only [hone, if_true]
  rfl

theorem IsAscii.flatMap_utf8EncodeChar {text : List Char} (h : IsAscii text) :
    text.flatMap String.utf8EncodeChar = text.map fun c => UInt8.ofNat c.toNat := by
  rw [List.flatMap_congr fun c hc => utf8EncodeChar_of_lt (h c hc), List.map_eq_flatMap]

/-- The bytes of a text of ASCII are its characters. -/
theorem byteChars_of_isAscii {text : String} (h : IsAscii text.toList) :
    byteChars text = text.toList := by
  rw [byteChars, Text.Utf8.toList_toUTF8, h.flatMap_utf8EncodeChar, List.map_map]
  refine (List.map_congr_left fun c hc => ?_).trans (List.map_id text.toList)
  have hbyte : (UInt8.ofNat c.toNat).toNat = c.toNat := by
    rw [UInt8.toNat_ofNat', Nat.mod_eq_of_lt (Nat.lt_trans (h c hc) (by decide))]
  rw [Function.comp_apply, hbyte, Char.ofNat_toNat]
  rfl

theorem ofByteChars_of_isAscii {text : List Char} (h : IsAscii text) :
    ofByteChars text = String.ofList text := by
  have hdecode := Text.Utf8.decode_toUTF8 (String.ofList text)
  rw [Text.Utf8.toList_toUTF8, String.toList_ofList, h.flatMap_utf8EncodeChar] at hdecode
  rw [ofByteChars, hdecode]

/-! ### First lines -/

theorem takeWord_get (s : List Char) :
    takeWord .method (httpMethods ++ otherMethods) ('G' :: 'E' :: 'T' :: ' ' :: s) =
      .ok ("GET", ' ' :: s) := by
  have hlength : commonLength ((httpMethods ++ otherMethods).map String.toList)
      ('G' :: 'E' :: 'T' :: ' ' :: s) = 3 := by
    rfl
  rw [takeWord, hlength]
  rfl

theorem skipVersion_get (s : List Char) :
    skipVersion "GET"
      ('H' :: 'T' :: 'T' :: 'P' :: '/' :: '1' :: '.' :: '1' :: '\r' :: '\n' :: s) = .ok s := by
  rfl

theorem skipTarget_get {path : List Char} (hpath : ∀ c ∈ path, isTargetChar c = true)
    (rest : List Char) :
    skipTarget "GET" ('/' :: (path ++ ' ' :: rest)) = .ok (' ' :: rest) := by
  have hslash : isTargetChar '/' = true := by decide
  have hspace : ¬ isTargetChar ' ' = true := by decide
  have hdrop : ('/' :: (path ++ ' ' :: rest)).dropWhile isTargetChar = ' ' :: rest := by
    rw [List.dropWhile_cons_of_pos hslash, List.dropWhile_append_of_pos hpath,
      List.dropWhile_cons_of_neg hspace]
  rw [skipTarget, if_neg (by decide)]
  simp only [skipPath, hdrop]
  rfl

/-- The first line of a request for a path is taken apart. -/
theorem takeFirstLine_get {path : List Char} (hpath : ∀ c ∈ path, isTargetChar c = true)
    (rest : List Char) :
    takeFirstLine ("GET /".toList ++ path ++ " HTTP/1.1\r\n".toList ++ rest) =
      .ok (("GET", '/' :: path), rest) := by
  have hsent : "GET /".toList ++ path ++ " HTTP/1.1\r\n".toList ++ rest =
      'G' :: 'E' :: 'T' :: ' ' :: '/' :: (path ++ ' ' :: 'H' :: 'T' :: 'T' :: 'P' :: '/' :: '1' ::
        '.' :: '1' :: '\r' :: '\n' :: rest) := by
    simp
  have htarget : ∀ more : List Char,
      ('/' :: (path ++ more)).take (('/' :: (path ++ more)).length - more.length) =
        '/' :: path := by
    intro more
    rw [← List.cons_append, List.length_append, Nat.add_sub_cancel, List.take_left]
  rw [hsent, takeFirstLine, takeWord_get]
  simp only [bind, Except.bind, takeChar, decide_true, if_true]
  rw [List.dropWhile_cons_of_neg (by decide), skipTarget_get hpath]
  simp only
  rw [List.dropWhile_cons_of_pos (by decide), List.dropWhile_cons_of_neg (by decide),
    skipVersion_get, htarget]
  rfl

/-! ### Fields -/

/-- The fields of the head of a request that has no body and none of its own. -/
def plainFields : List (String × String) :=
  [("Host", "localhost"), ("Content-Length", "0")]

/-- The lines of these fields. -/
def plainLines : List Char :=
  "Host: localhost\r\nContent-Length: 0\r\n\r\n".toList

/-- The same fields, as they are read. -/
def readFields : List Field :=
  [⟨"Host".toList, "localhost".toList⟩, ⟨"Content-Length".toList, "0".toList⟩]

theorem takeFields_plainLines :
    takeFields plainLines.length [] plainLines = .ok (readFields, []) := by
  rfl

theorem readFields_texts :
    readFields.map (fun field => (ofByteChars field.name, ofByteChars field.value)) =
      plainFields := by
  rfl

theorem readFields_names :
    readFields.map (fun field => plainFieldName field.name) = ["host", "content-length"] := by
  rfl

/-- Fields with different names are no duplicates. -/
theorem duplicate?_eq_none {fields : List Field}
    (h : (fields.map fun field => plainFieldName field.name).Nodup) : duplicate? fields = none := by
  refine List.find?_eq_none.mpr fun name _ => ?_
  have hcount := List.nodup_iff_count_le_one.mp h (Text.lower name)
  rw [List.count, List.countP_map] at hcount
  rw [decide_eq_true_eq, Nat.not_lt]
  refine Nat.le_trans (List.countP_mono_left fun field _ hfield => ?_) hcount
  exact beq_iff_eq.mpr (of_decide_eq_true hfield)

/-! ### Heads -/

theorem sentHead_get (path : List Char) :
    (Request.sentHead ⟨"GET", String.ofList ('/' :: path), [], []⟩).toList =
      "GET /".toList ++ path ++ " HTTP/1.1\r\n".toList ++ plainLines := by
  have htarget : (toString (String.ofList ('/' :: path))).toList = '/' :: path :=
    String.toList_ofList
  have hlength : toString ([] : List UInt8).length = "0" := rfl
  rw [Request.sentHead]
  simp only [List.nil_append, List.cons_append, List.map_cons, List.map_nil, hlength,
    String.toList_append, String.toList_intercalate, htarget, List.intercalate_cons_cons,
    List.intercalate_singleton, List.append_assoc]
  rfl

theorem isAscii_sent {path : List Char} (hpath : IsAscii path) :
    IsAscii ("GET /".toList ++ path ++ " HTTP/1.1\r\n".toList ++ plainLines) := by
  have hfront : IsAscii "GET /".toList := by
    rw [IsAscii, ← List.all_iff_forall_prop]
    rfl
  have hversion : IsAscii " HTTP/1.1\r\n".toList := by
    rw [IsAscii, ← List.all_iff_forall_prop]
    rfl
  have hlines : IsAscii plainLines := by
    rw [IsAscii, ← List.all_iff_forall_prop]
    rfl
  exact List.forall_mem_append.mpr ⟨List.forall_mem_append.mpr
    ⟨List.forall_mem_append.mpr ⟨hfront, hpath⟩, hversion⟩, hlines⟩

theorem isAscii_of_isTargetChar {path : List Char} (hpath : ∀ c ∈ path, isTargetChar c = true) :
    IsAscii path := by
  intro c hc
  have hrange := hpath c hc
  simp only [isTargetChar, Bool.and_eq_true, decide_eq_true_eq] at hrange
  have hlast : c ≤ '~' := hrange.1.1.2
  exact Nat.lt_of_le_of_lt (UInt32.le_iff_toNat_le.mp hlast) (by decide)

/-- A head is read if each of its parts is. -/
theorem Head.read_eq_ok {sent target rest more : List Char} {method : String}
    {fields : List Field} (hline : takeFirstLine sent = .ok ((method, target), rest))
    (htarget : checkSize target = .ok ()) (hpath : (targetPath? method target).isNone = false)
    (hfields : takeFields rest.length [] rest = .ok (fields, more))
    (hsizes : fields.forM (fun field => do
      checkSize field.name
      checkSize field.value) = (.ok () : Except HeadFault Unit))
    (hduplicate : duplicate? fields = none) :
    Head.read sent = .ok ⟨method, ofByteChars target,
      fields.map fun field => (ofByteChars field.name, ofByteChars field.value)⟩ := by
  simp only [bind, Except.bind] at hsizes
  rw [Head.read, hline]
  simp only [Except.mapError, bind, Except.bind, htarget, hpath, hfields, hsizes, hduplicate,
    Bool.false_eq_true, if_false]
  rfl

/-- The head that is sent to get a path is read, if the path is not too long. -/
theorem read_get {path : List Char} (hpath : ∀ c ∈ path, isTargetChar c = true)
    (hsize : path.length < maxFieldSize) :
    Head.read (byteChars (Request.sentHead ⟨"GET", String.ofList ('/' :: path), [], []⟩)) =
      .ok ⟨"GET", String.ofList ('/' :: path), plainFields⟩ := by
  have hascii := isAscii_of_isTargetChar hpath
  have hsent := sentHead_get path
  have hbytes : byteChars (Request.sentHead ⟨"GET", String.ofList ('/' :: path), [], []⟩) =
      "GET /".toList ++ path ++ " HTTP/1.1\r\n".toList ++ plainLines := by
    rw [← hsent]
    refine byteChars_of_isAscii ?_
    rw [hsent]
    exact isAscii_sent hascii
  have htarget : checkSize ('/' :: path) = .ok () := by
    rw [checkSize, if_neg]
    rw [List.length_cons]
    omega
  have hsizes : readFields.forM (fun field => do
      checkSize field.name
      checkSize field.value) = (.ok () : Except HeadFault Unit) := by
    rfl
  have hduplicate : duplicate? readFields = none := by
    refine duplicate?_eq_none ?_
    rw [readFields_names]
    decide
  have hslash : IsAscii ('/' :: path) := List.forall_mem_cons.mpr ⟨by decide, hascii⟩
  have hread := Head.read_eq_ok (takeFirstLine_get hpath plainLines) htarget rfl
    takeFields_plainLines hsizes hduplicate
  rw [hbytes, hread, ofByteChars_of_isAscii hslash, readFields_texts]

end Http

namespace Server

open Http (Head Request)

namespace Service

/-- A request without a body is received if its head is read. -/
theorem received_eq_ok {sent : Request} {head : Head}
    (hread : Head.read (Http.byteChars sent.sentHead) = .ok head) (hbody : sent.body = [])
    (hcoding : Request.codingFault? ⟨head.method, head.target, head.fields, []⟩ = none) :
    received sent = .ok ⟨head.method, head.target, head.fields, []⟩ := by
  rw [received, hread]
  simp only [bind, Except.bind, hbody, ite_self, hcoding]
  rfl

theorem codingFault?_plainFields (target : String) :
    Request.codingFault? ⟨"GET", target, Http.plainFields, []⟩ = none := by
  have hfields : Http.plainFields.filter (fun field => Text.lower field.1 = "content-encoding") =
      [] := by
    rfl
  have hcoding : Request.coding? ⟨"GET", target, Http.plainFields, []⟩ = none := by
    simp only [Request.coding?, hfields]
    rfl
  rw [Request.codingFault?, hcoding]

/-- A request for a path is received as it was sent, if the path is not too long. -/
theorem received_get {target : String} {path : List Char} (htarget : target.toList = '/' :: path)
    (hpath : ∀ c ∈ path, Http.isTargetChar c = true) (hsize : path.length < Http.maxFieldSize) :
    received ⟨"GET", target, [], []⟩ = .ok ⟨"GET", target, Http.plainFields, []⟩ := by
  have hsame : target = String.ofList ('/' :: path) := by
    rw [← htarget, String.ofList_toList]
  subst hsame
  exact received_eq_ok (Http.read_get hpath hsize) rfl (codingFault?_plainFields _)

theorem unknownExpectation?_plainFields (target : String) :
    unknownExpectation? ⟨"GET", target, Http.plainFields, []⟩ = none := by
  have hfields : Http.plainFields.find? (fun field => Text.lower field.1 = "expect") = none := by
    rfl
  rw [unknownExpectation?, Request.header?, hfields]
  rfl

end Service

end Server

end Abacus
