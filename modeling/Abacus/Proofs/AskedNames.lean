/-
Module: Abacus.Proofs.AskedNames
Purpose: Names of pages that can be asked for. A name that is not empty and holds no line feed is
  asked for by a target with every byte of it escaped, also where it holds slashes, percent signs
  or characters that end a path; and no target asks for a name with a line feed.
Main exports: Http.escaped, Http.unescapeFrom_escaped, Http.plainText_keepEscaped,
  route_pageTarget, not_mem_newline_of_route, AsksForPage, asksForPage_pageTarget
-/
import Mathlib.Data.List.TakeWhile
import Abacus.Proofs.SentHeads

namespace Abacus

namespace Http

open Text.Utf8 (Pending Completes start)

/-! ### Escapes -/

/-- A byte as an escape. -/
def escapeByte (byte : UInt8) : List Char :=
  '%' :: Text.hex 2 byte.toNat

/-- A text with every byte escaped. -/
def escaped (text : List Char) : List Char :=
  text.flatMap fun c => (String.utf8EncodeChar c).flatMap escapeByte

theorem escapeByte_eq (byte : UInt8) :
    escapeByte byte =
      ['%', Nat.digitChar (byte.toNat / 16), Nat.digitChar (byte.toNat % 16)] := by
  have hhigh : byte.toNat / 16 % 16 = byte.toNat / 16 :=
    Nat.mod_eq_of_lt (Nat.div_lt_of_lt_mul byte.toNat_lt)
  rw [escapeByte, Text.hex, Text.hex, Text.hex, hhigh]
  rfl

theorem escapedByte?_digits (byte : UInt8) :
    escapedByte? (Nat.digitChar (byte.toNat / 16)) (Nat.digitChar (byte.toNat % 16)) =
      some byte := by
  have hlt : byte.toNat / 16 < 16 := Nat.div_lt_of_lt_mul byte.toNat_lt
  have hhigh := Text.hexValue?_digitChar hlt
  have hlow := Text.hexValue?_digitChar (Nat.mod_lt byte.toNat (by decide : 0 < 16))
  have hvalue : byte.toNat / 16 * 16 + byte.toNat % 16 = byte.toNat := Nat.div_add_mod' _ _
  rw [escapedByte?, hhigh, hlow]
  simp only [bind, Option.bind, hvalue, UInt8.ofNat_toNat]

/-- An escape is read as its byte. -/
theorem unescapeFrom_escapeByte (begun : Option Begun) (byte : UInt8) (rest : List Char) :
    unescapeFrom begun (escapeByte byte ++ rest) =
      (takeByte begun byte (escapeByte byte)).1 ++
        unescapeFrom (takeByte begun byte (escapeByte byte)).2 rest := by
  rw [escapeByte_eq]
  simp only [List.cons_append, List.nil_append]
  rw [unescapeFrom, escapedByte?_digits]

/-- The escapes that bring a begun character to its end are read as that character. -/
theorem unescapeFrom_completes {p : Pending} {bytes : List UInt8} {c : Char}
    (h : Completes (.pending p) bytes c) (sent rest : List Char) :
    unescapeFrom (some ⟨p, sent⟩) (bytes.flatMap escapeByte ++ rest) =
      keepEscaped c ++ unescapeFrom none rest := by
  induction bytes generalizing p sent with
  | nil => cases h
  | cons byte bytes ih =>
      cases h with
      | byte hpush =>
      rw [List.flatMap_cons, List.append_assoc, unescapeFrom_escapeByte, takeByte]
      generalize p.push byte = progress at hpush
      cases progress with
      | character d =>
          cases hpush
          rfl
      | pending q => exact ih hpush _
      | refused => cases hpush

theorem unescapeFrom_character (c : Char) (rest : List Char) :
    unescapeFrom none ((String.utf8EncodeChar c).flatMap escapeByte ++ rest) =
      keepEscaped c ++ unescapeFrom none rest := by
  obtain ⟨first, bytes, hbytes, hcompletes⟩ := Text.Utf8.exists_completes c
  rw [hbytes, List.flatMap_cons, List.append_assoc, unescapeFrom_escapeByte, takeByte, firstByte]
  generalize start first = progress at hcompletes
  cases progress with
  | character d =>
      cases hcompletes
      rfl
  | pending p => exact unescapeFrom_completes hcompletes _ rest
  | refused => cases hcompletes

/-- A text with every byte escaped is read as that text, with slashes and percent signs kept. -/
theorem unescapeFrom_escaped (text : List Char) :
    unescapeFrom none (escaped text) = text.flatMap keepEscaped := by
  induction text with
  | nil => rfl
  | cons c text ih =>
      rw [escaped, List.flatMap_cons, unescapeFrom_character, ← escaped, ih, List.flatMap_cons]

/-- Slashes and percent signs that were kept are read in the end. -/
theorem plainText_keepEscaped (text : List Char) :
    plainText (text.flatMap keepEscaped) = text := by
  induction text with
  | nil => rfl
  | cons c text ih =>
      rw [List.flatMap_cons, keepEscaped]
      split
      · next hslash =>
          subst hslash
          exact congrArg _ ih
      split
      · next hpercent =>
          subst hpercent
          exact congrArg _ ih
      · next hpercent =>
          rw [List.singleton_append, plainText, ih]
          · rintro rest rfl
            exact absurd rfl hpercent
          · rintro rest rfl
            exact absurd rfl hpercent

/-- Escapes are made of characters that may stand in a target. -/
theorem isTargetChar_of_mem_escaped {text : List Char} {c : Char} (hc : c ∈ escaped text) :
    isTargetChar c = true := by
  have hdigit : ∀ n < 16, isTargetChar (Nat.digitChar n) = true := by decide
  obtain ⟨d, -, hd⟩ := List.mem_flatMap.mp hc
  obtain ⟨byte, -, hbyte⟩ := List.mem_flatMap.mp hd
  rw [escapeByte_eq] at hbyte
  simp only [List.mem_cons, List.not_mem_nil, or_false] at hbyte
  rcases hbyte with rfl | rfl | rfl
  · decide
  · exact hdigit _ (Nat.div_lt_of_lt_mul byte.toNat_lt)
  · exact hdigit _ (Nat.mod_lt _ (by decide))

theorem localPath_escaped (text : List Char) :
    localPath ('/' :: escaped text) = '/' :: escaped text := by
  have hquestion : '?' ∉ '/' :: escaped text := by
    rintro (_ | ⟨_, hmem⟩)
    exact absurd (isTargetChar_of_mem_escaped hmem) (by decide)
  rw [localPath, if_neg hquestion, List.takeWhile_eq_self_iff]
  intro c hc
  rcases List.mem_cons.mp hc with rfl | hmem
  · rfl
  · refine decide_eq_true ?_
    rintro rfl
    exact absurd (isTargetChar_of_mem_escaped hmem) (by decide)

end Http

namespace Server

open Http (Request)

/-- The target that asks for a page with every byte of its name escaped. -/
def pageTarget (name : String) : String :=
  String.ofList ('/' :: Http.escaped name.toList)

theorem mem_keepEscaped_newline {c : Char} : '\n' ∈ Http.keepEscaped c ↔ c = '\n' := by
  unfold Http.keepEscaped
  split
  · next hslash =>
      subst hslash
      decide
  split
  · next hpercent =>
      subst hpercent
      decide
  · rw [List.mem_singleton, eq_comm]

/-- Every name that is not empty and holds no line feed can be asked for. -/
theorem route_pageTarget {method name : String} (hmethod : method = "GET" ∨ method = "HEAD")
    (hname : name ≠ "") (hline : '\n' ∉ name.toList) (headers : List (String × String))
    (body : List UInt8) : route ⟨method, pageTarget name, headers, body⟩ = .page name := by
  have hpath : Http.targetPath? method (pageTarget name).toList =
      some ('/' :: Http.escaped name.toList) := by
    rw [pageTarget, String.toList_ofList, Http.targetPath?, Http.localPath_escaped]
  have hunescaped : Http.unescapePath ('/' :: Http.escaped name.toList) =
      '/' :: name.toList.flatMap Http.keepEscaped := by
    rw [Http.unescapePath, Http.unescapeFrom, Http.unescapeFrom_escaped]
    · rfl
    · nofun
  have hpost : method ≠ "POST" := by
    rcases hmethod with rfl | rfl <;> decide
  have hsome : ¬ (name.toList.flatMap Http.keepEscaped = [] ∨
      '\n' ∈ name.toList.flatMap Http.keepEscaped) := by
    rintro (hnil | hmem)
    · have hplain := Http.plainText_keepEscaped name.toList
      rw [hnil] at hplain
      exact hname (String.toList_eq_nil_iff.mp hplain.symm)
    · obtain ⟨c, hc, hnewline⟩ := List.mem_flatMap.mp hmem
      rw [mem_keepEscaped_newline.mp hnewline] at hc
      exact hline hc
  have hpage : pageName? ('/' :: name.toList.flatMap Http.keepEscaped) = some name := by
    rw [pageName?, if_neg hsome, Http.plainText_keepEscaped, String.ofList_toList]
  rw [route]
  simp only [hpath, Option.getD_some, hunescaped, hpage, hpost, and_false, if_false, hmethod,
    if_true]

/-! ### Names without line feeds -/

/-- The names of pages hold no line feed, however they are escaped. -/
theorem not_mem_newline_plainText {text : List Char} (h : '\n' ∉ text) :
    '\n' ∉ Http.plainText text := by
  fun_induction Http.plainText text <;> simp_all

theorem not_mem_newline_of_route {request : Request} {name : String}
    (h : route request = .page name) : '\n' ∉ name.toList := by
  have hname : ∀ {path : List Char}, pageName? path = some name → '\n' ∉ name.toList := by
    intro path hpath
    unfold pageName? at hpath
    split at hpath
    · split at hpath
      · cases hpath
      · next hplain =>
          cases hpath
          rw [String.toList_ofList]
          exact not_mem_newline_plainText (not_or.mp hplain).2
    · cases hpath
  unfold route at h
  simp only at h
  split at h
  · cases h
  · split at h
    · next hpage =>
        split at h
        · cases h
          exact hname hpage
        · cases h
    · cases h

/-! ### Requests for pages -/

/-- What a client sends reaches the handler of pages with a name. -/
def AsksForPage (sent : Request) (name : String) : Prop :=
  ∃ request : Request, Service.received sent = .ok request ∧
    Service.unknownExpectation? request = none ∧ route request = .page name

theorem asksForPage_iff_route {sent request : Request}
    (hreceived : Service.received sent = .ok request)
    (hexpectation : Service.unknownExpectation? request = none) {name : String} :
    AsksForPage sent name ↔ route request = .page name := by
  constructor
  · rintro ⟨other, hother, -, hroute⟩
    rw [hreceived] at hother
    cases hother
    exact hroute
  · exact fun hroute => ⟨request, hreceived, hexpectation, hroute⟩

/-- A request for a path asks for the page to which the path is routed. -/
theorem asksForPage_get_iff {target : String} {path : List Char} {name : String}
    (htarget : target.toList = '/' :: path) (hpath : ∀ c ∈ path, Http.isTargetChar c = true)
    (hsize : path.length < Http.maxFieldSize) :
    AsksForPage ⟨"GET", target, [], []⟩ name ↔
      route ⟨"GET", target, Http.plainFields, []⟩ = .page name :=
  asksForPage_iff_route (Service.received_get htarget hpath hsize)
    (Service.unknownExpectation?_plainFields target)

/-- Every name that is not empty, holds no line feed and is not too long to be sent is asked for by
    its target. -/
theorem asksForPage_pageTarget {name : String} (hname : name ≠ "") (hline : '\n' ∉ name.toList)
    (hsize : (Http.escaped name.toList).length < Http.maxFieldSize) :
    AsksForPage ⟨"GET", pageTarget name, [], []⟩ name :=
  (asksForPage_get_iff String.toList_ofList (fun _ => Http.isTargetChar_of_mem_escaped) hsize).mpr
    (route_pageTarget (.inl rfl) hname hline _ _)

end Server

end Abacus
