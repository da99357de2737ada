/-
Module: Abacus.Proofs.JsonWriting
Purpose: JSON written with one entry a line. What is written is one of the ways to write the value,
  so reading it gives the value again; this holds of all values without numbers of 64 bits whose
  objects have no two members of one name. Whatever its strings hold, the text is made of printable
  ASCII and line feeds.
Main exports: stringText_escapeString, number?_toString, listText_intercalate, IsExact,
  valueText_indentedAt, readWithin_indented, readWithin_toString_error, allWritten_indentedAt
-/
import Mathlib.Algebra.Group.Nat.Defs
import Mathlib.Data.List.Nodup
import Mathlib.Data.List.TakeWhile
import Abacus.Json.Write
import Abacus.Proofs.JsonGrammar
import Abacus.Proofs.TextLines

namespace Abacus.Json

/-! ### Strings -/

/-- Four hexadecimal digits stand for the number that they were written for. -/
theorem fourDigits?_hex {n : Nat} (h : n < 0x10000) :
    fourDigits? (Text.hex 4 n) = some (n, []) := by
  have hdigit : ∀ m : Nat, Text.hexValue? (Nat.digitChar (m % 16)) = some (m % 16) :=
    fun m => Text.hexValue?_digitChar (Nat.mod_lt m (by decide))
  simp only [Text.hex, List.nil_append, List.cons_append, fourDigits?, hdigit,
    Option.bind_eq_bind, Option.bind_some]
  congr 2
  omega

theorem charText_numericEscape (c : Char) : CharText c (numericEscape c) := by
  have hvalid : c.toNat < 0xD800 ∨ 0xDFFF < c.toNat ∧ c.toNat < 0x110000 := c.valid
  unfold numericEscape
  split
  · next h => exact .unit (fourDigits?_hex h)
  · next h =>
      have hhigh : 0xD800 + (c.toNat - 0x10000) / 0x400 < 0x10000 := by omega
      have hlow : 0xDC00 + (c.toNat - 0x10000) % 0x400 < 0x10000 := by omega
      refine .pair (fourDigits?_hex hhigh) ?_ (fourDigits?_hex hlow) ?_ ?_
      · simp only [isHighUnit, Bool.and_eq_true, decide_eq_true_eq]
        omega
      · simp only [isLowUnit, Bool.and_eq_true, decide_eq_true_eq]
        omega
      · have hvalue : 0x10000 + (0xD800 + (c.toNat - 0x10000) / 0x400 - 0xD800) * 0x400 +
            (0xDC00 + (c.toNat - 0x10000) % 0x400 - 0xDC00) = c.toNat := by omega
        rw [joinUnits, hvalue, Char.ofNat_toNat]

theorem charText_escapeChar (c : Char) : CharText c (escapeChar c) := by
  unfold escapeChar
  split
  · next h =>
      rcases h with rfl | rfl
      · exact .letter rfl
      · exact .letter rfl
  iterate 5
    split
    · next h =>
        subst h
        exact .letter rfl
  split
  · next hquote _ _ _ _ _ hprintable =>
      refine .plain (Nat.not_lt.mpr ?_) (fun h => hquote (.inl h)) (fun h => hquote (.inr h))
      exact hprintable.1
  · exact charText_numericEscape c

theorem stringText_escapeString (s : String) : StringText s (escapeString s).toList := by
  have hchars : ∀ chars : List Char, CharsText chars (chars.flatMap escapeChar) := by
    intro chars
    induction chars with
    | nil => exact .nil
    | cons c chars ih => exact .cons (charText_escapeChar c) ih
  have htext := StringText.quoted (hchars s.toList)
  rw [String.ofList_toList] at htext
  rw [escapeString, String.toList_ofList]
  exact htext

/-! ### Whole numbers -/

theorem natOfDigits_toDigits (n : Nat) : natOfDigits (Nat.toDigits 10 n) = n := by
  have hfold : ∀ digits : List Char, natOfDigits digits = Nat.ofDigitChars 10 digits 0 := by
    intro digits
    rw [natOfDigits, Nat.ofDigitChars_eq_foldl]
    simp only [Nat.mul_comm]
  rw [hfold, Nat.ofDigitChars_toDigits (by decide) (by decide)]

theorem isDigit_of_mem_toDigits {n : Nat} {c : Char} (h : c ∈ Nat.toDigits 10 n) :
    Text.isDigit c = true := by
  exact Nat.isDigit_of_mem_toDigits (by decide) (by decide) h

/-- Only zero is written with a zero in front. -/
theorem toDigits_eq_zero_cons {n : Nat} {rest : List Char} (h : Nat.toDigits 10 n = '0' :: rest) :
    rest = [] := by
  induction n using Nat.strongRecOn generalizing rest with
  | _ n ih =>
    rw [Nat.toDigits_eq_if (by decide)] at h
    split at h
    · exact (List.cons.inj h).2.symm
    · next hlarge =>
      cases hmore : Nat.toDigits 10 (n / 10) with
      | nil => exact absurd hmore (Nat.toDigits_ne_nil)
      | cons c more =>
        rw [hmore] at h
        obtain ⟨rfl, hrest⟩ := List.cons.inj h
        have := ih (n / 10) (by omega) hmore
        subst this
        have := natOfDigits_toDigits (n / 10)
        rw [hmore] at this
        change 0 = n / 10 at this
        omega

theorem spanDigits_of_all {digits : List Char} (h : ∀ c ∈ digits, Text.isDigit c = true) :
    spanDigits digits = (digits, []) := by
  rw [spanDigits, List.span_eq_takeWhile_dropWhile, List.takeWhile_eq_self_iff.mpr h,
    List.dropWhile_eq_nil_iff.mpr h]

/-- The digits of a number are its whole part. -/
theorem wholePart?_toDigits (n : Nat) :
    wholePart? (Nat.toDigits 10 n) = some (Nat.toDigits 10 n, []) := by
  cases hdigits : Nat.toDigits 10 n with
  | nil => exact absurd hdigits Nat.toDigits_ne_nil
  | cons c rest =>
      by_cases hzero : c = '0'
      · subst hzero
        rw [toDigits_eq_zero_cons hdigits]
        rfl
      · have hall : ∀ d ∈ c :: rest, Text.isDigit d = true := by
          rw [← hdigits]
          exact fun d hd => isDigit_of_mem_toDigits hd
        rw [wholePart?]
        · rw [if_pos (hall c List.mem_cons_self), spanDigits_of_all hall]
        · exact hzero

theorem unsigned?_toDigits (negative : Bool) (n : Nat) :
    unsigned? negative (Nat.toDigits 10 n) =
      some (.whole (if negative then -(n : Int) else n), []) := by
  rw [unsigned?, wholePart?_toDigits]
  have hvalue := natOfDigits_toDigits n
  simp only [Option.bind_eq_bind, Option.bind_some, fractionPart, exponentPart?, hvalue]
  rfl

/-- A whole number is written by its digits, behind a sign if it is below zero. -/
theorem toList_toString_int (n : Int) :
    (toString n).toList =
      (if n < 0 then ['-'] else []) ++ Nat.toDigits 10 n.natAbs := by
  cases n with
  | ofNat n =>
      have htext : toString (Int.ofNat n) = n.repr := rfl
      rw [htext, Nat.repr_eq_ofList_toDigits, String.toList_ofList]
      rfl
  | negSucc n =>
      have htext : toString (Int.negSucc n) = "-" ++ (n + 1).repr := rfl
      rw [htext, String.toList_append, Nat.repr_eq_ofList_toDigits,
        if_pos (Int.negSucc_lt_zero n)]
      exact congrArg (['-'] ++ ·) String.toList_ofList

/-- A whole number is read as it is written. -/
theorem number?_toString (n : Int) : number? (toString n).toList = some (.whole n, []) := by
  rw [toList_toString_int]
  split
  · next hneg =>
      have hvalue : -(n.natAbs : Int) = n := by omega
      rw [List.singleton_append, number?, unsigned?_toDigits, if_pos rfl, hvalue]
  · next hpos =>
      have hvalue : (n.natAbs : Int) = n := by omega
      rw [List.nil_append, number?]
      · rw [unsigned?_toDigits, hvalue]
        rfl
      · intro rest hminus
        have hdigit : Text.isDigit '-' = true :=
          isDigit_of_mem_toDigits (hminus ▸ List.mem_cons_self)
        cases hdigit

/-! ### Lists -/

/-- Entries with commas between them are a way to write their list. -/
theorem listText_intercalate {α : Type} {entry : α → List Char → Prop} {write : α → List Char}
    {separator last : List Char} (hseparator : IsGapText separator) (hlast : IsGapText last)
    {entries : List α} (hne : entries ≠ []) (h : ∀ a ∈ entries, entry a (write a)) :
    ListText entry entries ((',' :: separator).intercalate (entries.map write) ++ last) := by
  induction entries with
  | nil => exact absurd rfl hne
  | cons a entries ih =>
      obtain ⟨hfirst, hlater⟩ := List.forall_mem_cons.mp h
      cases entries with
      | nil =>
          rw [List.map_singleton, List.intercalate_singleton]
          exact .last hfirst hlast
      | cons b entries =>
          have hnone : IsGapText [] := nofun
          have hmore := ListText.more hfirst hnone hseparator
            (ih (List.cons_ne_nil b entries) hlater)
          rw [List.map_cons, List.map_cons, List.intercalate_cons_cons]
          simpa using hmore

/-- The numbers that can be written are those with no more digits than are read. -/
theorem isWritable_iff_lt_pow {n : Int} :
    Text.IsWritable n ↔ n.natAbs < 10 ^ Text.maxDigits := by
  rw [Text.isWritable_iff, Nat.pow_eq]

/-- The values that are written exactly: no number of 64 bits among them, whole numbers with as many
    digits as `digits`, no two members of an object with one name, and brackets nested as deep as
    `depth`. -/
def IsExact (digits : Nat) : (depth : Nat) → Value → Prop
  | _, .real _ => False
  | _, .whole n => n.natAbs < 10 ^ digits
  | 0, .array _ | 0, .object _ => False
  | depth + 1, .array items => ∀ item ∈ items, IsExact digits depth item
  | depth + 1, .object members =>
      (members.map Prod.fst).Nodup ∧ ∀ member ∈ members, IsExact digits depth member.2
  | _, _ => True

theorem indentedItems_eq (level : Nat) (items : List Value) :
    indentedItems level items = items.map (indentedAt level) := by
  induction items with
  | nil => rfl
  | cons item items ih => rw [indentedItems, ih, List.map_cons]

theorem indentedMembers_eq (level : Nat) (members : List (String × Value)) :
    indentedMembers level members =
      members.map fun member => escapeString member.1 ++ ": " ++ indentedAt level member.2 := by
  induction members with
  | nil => rfl
  | cons member members ih => rw [indentedMembers, ih, List.map_cons]

theorem isGapText_lineStart (level : Nat) : IsGapText (lineStart level).toList := by
  rw [lineStart, String.toList_ofList]
  rintro c hc
  rcases List.mem_cons.mp hc with rfl | hc
  · rfl
  · rw [(List.mem_replicate.mp hc).2]
    rfl

/-- The text of entries between brackets, one a line. -/
theorem toList_block (level : Nat) (opening closing : String) {entries : List String}
    (hne : entries ≠ []) :
    (block level opening closing entries).toList =
      opening.toList ++ (lineStart (level + 1)).toList ++
        ((',' :: (lineStart (level + 1)).toList).intercalate (entries.map String.toList) ++
          (lineStart level).toList) ++ closing.toList := by
  have hsome : entries.isEmpty = false := List.isEmpty_eq_false_iff.mpr hne
  rw [block, hsome]
  simp only [Bool.false_eq_true, if_false, String.toList_append, String.toList_intercalate,
    List.append_assoc]
  rfl

theorem memberText_written {entry : Value → List Char → Prop} {member : String × Value}
    {text : String} (h : entry member.2 text.toList) :
    MemberText entry member (escapeString member.1 ++ ": " ++ text).toList := by
  have hnone : IsGapText [] := nofun
  have hblank : IsGapText [' '] := by
    rintro c hc
    rw [List.mem_singleton.mp hc]
    rfl
  have htext := MemberText.named (stringText_escapeString member.1) hnone hblank h
  rw [String.toList_append, String.toList_append]
  simpa using htext

theorem setMember_of_not_mem {name : String} {v : Value} {members : List (String × Value)}
    (h : name ∉ members.map Prod.fst) : setMember name v members = members ++ [(name, v)] := by
  induction members with
  | nil => rfl
  | cons member members ih =>
      rw [List.map_cons, List.mem_cons, not_or] at h
      rw [setMember, if_neg (Ne.symm h.1), ih h.2, List.cons_append]

/-- Members with different names are the members of an object as they are. -/
theorem objectOf_of_nodup {members : List (String × Value)}
    (h : (members.map Prod.fst).Nodup) : objectOf members = members := by
  have hfold : ∀ known later : List (String × Value), ((known ++ later).map Prod.fst).Nodup →
      later.foldl (fun known member => setMember member.1 member.2 known) known =
        known ++ later := by
    intro known later
    induction later generalizing known with
    | nil => simp
    | cons member later ih =>
        intro hnodup
        have hnew : member.1 ∉ known.map Prod.fst := by
          rw [List.map_append, List.map_cons] at hnodup
          have hmiddle := (List.nodup_cons.mp (List.nodup_middle.mp hnodup)).1
          exact fun hmem => hmiddle (List.mem_append_left _ hmem)
        rw [List.foldl_cons, setMember_of_not_mem hnew, ih]
        · simp
        · simpa using hnodup
  exact hfold [] members h

/-- A value without brackets is written in one of the ways to write it. -/
theorem plainText_scalarText {digits : Nat} {v : Value} (h : IsExact digits 0 v) :
    PlainText digits v (scalarText v).toList := by
  cases v with
  | null =>
      have hword : ("null", Value.null) ∈ words := List.mem_cons_self
      exact .scalar (.word hword)
  | bool b =>
      cases b with
      | false =>
          have hword : ("false", Value.bool false) ∈ words := by simp [words]
          exact .scalar (.word hword)
      | true =>
          have hword : ("true", Value.bool true) ∈ words := by simp [words]
          exact .scalar (.word hword)
  | whole n => exact .scalar (.number (number?_toString n) (decide_eq_true h))
  | string s => exact .string (stringText_escapeString s)
  | real x => cases h
  | array items => cases h
  | object members => cases h

theorem toList_block_nil (level : Nat) (opening closing : String) :
    (block level opening closing []).toList = opening.toList ++ closing.toList := by
  rw [block, List.isEmpty_nil, if_pos rfl, String.toList_append]

section

variable {digits depth level : Nat} (hentries : ∀ {v : Value}, IsExact digits depth v →
  ∀ level : Nat, ValueText digits depth v (indentedAt level v).toList)

include hentries

theorem bracketText_array {items : List Value} (h : IsExact digits (depth + 1) (.array items)) :
    BracketText (ValueText digits depth) (.array items)
      (indentedAt level (.array items)).toList := by
  rw [indentedAt, indentedItems_eq]
  by_cases hempty : items = []
  · subst hempty
    have hnone : IsGapText [] := nofun
    rw [List.map_nil, toList_block_nil]
    exact .emptyArray hnone
  · have hlist := listText_intercalate (isGapText_lineStart (level + 1))
      (isGapText_lineStart level) hempty fun item hitem => hentries (h item hitem) (level + 1)
    have hne : items.map (indentedAt (level + 1)) ≠ [] := List.map_eq_nil_iff.not.mpr hempty
    rw [toList_block _ _ _ hne, List.map_map]
    exact .array (isGapText_lineStart (level + 1)) hlist

theorem bracketText_object {members : List (String × Value)}
    (h : IsExact digits (depth + 1) (.object members)) :
    BracketText (ValueText digits depth) (.object members)
      (indentedAt level (.object members)).toList := by
  rw [indentedAt, indentedMembers_eq]
  by_cases hempty : members = []
  · subst hempty
    have hnone : IsGapText [] := nofun
    rw [List.map_nil, toList_block_nil]
    exact .emptyObject hnone
  · have hlist := listText_intercalate (isGapText_lineStart (level + 1))
      (isGapText_lineStart level) hempty fun member hmember =>
        memberText_written (hentries (h.2 member hmember) (level + 1))
    have htext := BracketText.object (isGapText_lineStart (level + 1)) hlist
    rw [objectOf_of_nodup h.1] at htext
    have hne : members.map (fun member =>
        escapeString member.1 ++ ": " ++ indentedAt (level + 1) member.2) ≠ [] :=
      List.map_eq_nil_iff.not.mpr hempty
    rw [toList_block _ _ _ hne, List.map_map]
    exact htext

end

/-- Each value that is written exactly is written in one of the ways to write it, at every
    level. -/
theorem valueText_indentedAt {digits depth : Nat} {v : Value} (h : IsExact digits depth v)
    (level : Nat) : ValueText digits depth v (indentedAt level v).toList := by
  induction depth generalizing v level with
  | zero =>
      cases v with
      | array items => cases h
      | object members => cases h
      | null | bool | whole | real | string => exact plainText_scalarText h
  | succ depth ih =>
      cases v with
      | array items => exact .inr (bracketText_array ih h)
      | object members => exact .inr (bracketText_object ih h)
      | real x => cases h
      | null | bool | string => exact .inl (plainText_scalarText trivial)
      | whole n => exact .inl (plainText_scalarText h)

/-- Reading undoes writing. -/
theorem readWithin_indented {digits depth : Nat} {v : Value} (h : IsExact digits depth v) :
    readWithin digits depth (indented v).toList = .ok v := by
  have hnone : IsGapText [] := nofun
  have hread := readWithin_of_valueText (valueText_indentedAt h 0) hnone hnone
  rw [List.nil_append, List.append_nil] at hread
  exact hread

/-- A whole number with more digits than are read is refused for them. -/
theorem readWithin_toString_error {digits : Nat} {n : Int} (hlong : 10 ^ digits ≤ n.natAbs)
    (depth : Nat) :
    ∃ fault : Fault, readWithin digits depth (toString n).toList = .error fault ∧
      fault.reason.isLimit = true := by
  -- Its text is one of a number, for a reader that allows more digits.
  have hscalar : ScalarText n.natAbs (.whole n) (toString n).toList :=
    .number (number?_toString n) (decide_eq_true (Nat.lt_pow_self (by decide)))
  obtain ⟨hstarts, c, later, htext, hquote, hbracket, hbrace⟩ := hscalar.start
  have hclosed : Closed [] := nofun
  have hshort : ¬ isShort digits (.whole n) = true := by simpa [isShort] using hlong
  have hrefused := scalar_of_number? (number?_toString n) digits hclosed
  have hskip := hstarts.skipGap []
  rw [List.append_nil, htext] at hskip
  rw [List.append_nil, if_neg hshort, htext] at hrefused
  rw [htext] at hstarts ⊢
  unfold readWithin
  split
  · next rest heq =>
      obtain ⟨_, _, hmark, _, _, _, hother⟩ := hstarts
      cases heq.symm.trans hmark
      exact absurd rfl hother
  · rw [hskip, Json.value, hrefused]
    · exact ⟨_, rfl, rfl⟩
    all_goals simp_all

/-! ### What a written text is made of -/

/-- Whether a text may hold a character as it is written: those of ASCII that are printable, and the
    line feed. -/
def isWritten (c : Char) : Bool :=
  c = '\n' || ' ' ≤ c && c ≤ '~'

/-- A text of such characters. -/
def AllWritten (text : List Char) : Prop :=
  text.all isWritten = true

theorem AllWritten.append {first later : List Char} (hfirst : AllWritten first)
    (hlater : AllWritten later) : AllWritten (first ++ later) := by
  rw [AllWritten, List.all_append, hfirst, hlater]
  rfl

theorem AllWritten.intercalate {separator : List Char} (hseparator : AllWritten separator)
    {texts : List (List Char)} (h : ∀ text ∈ texts, AllWritten text) :
    AllWritten (separator.intercalate texts) := by
  refine List.all_eq_true.mpr fun c hc => ?_
  rcases Text.mem_of_mem_intercalate hc with hmem | ⟨text, htext, hmem⟩
  · exact List.all_eq_true.mp hseparator c hmem
  · exact List.all_eq_true.mp (h text htext) c hmem

theorem isWritten_digitChar {n : Nat} (h : n < 16) : isWritten (Nat.digitChar n) = true := by
  decide +revert

theorem allWritten_hex (places n : Nat) : AllWritten (Text.hex places n) := by
  refine List.all_eq_true.mpr fun c hc => ?_
  obtain ⟨digit, hdigit, rfl⟩ := Text.exists_digit_of_mem_hex hc
  exact isWritten_digitChar hdigit

theorem allWritten_numericEscape (c : Char) : AllWritten (numericEscape c) := by
  have hescape : AllWritten ['\\', 'u'] := rfl
  unfold numericEscape
  split
  · exact hescape.append (allWritten_hex 4 _)
  · exact (hescape.append (allWritten_hex 4 _)).append (hescape.append (allWritten_hex 4 _))

theorem allWritten_escapeChar (c : Char) : AllWritten (escapeChar c) := by
  unfold escapeChar
  split
  · next h => rcases h with rfl | rfl <;> rfl
  iterate 5
    split
    · rfl
  split
  · next hprintable =>
      simp [AllWritten, isWritten, hprintable]
  · exact allWritten_numericEscape c

theorem allWritten_escapeString (s : String) : AllWritten (escapeString s).toList := by
  have hquote : AllWritten ['"'] := rfl
  have hchars : AllWritten (s.toList.flatMap escapeChar) := by
    refine List.all_eq_true.mpr fun c hc => ?_
    obtain ⟨d, -, hd⟩ := List.mem_flatMap.mp hc
    exact List.all_eq_true.mp (allWritten_escapeChar d) c hd
  rw [escapeString, String.toList_ofList]
  exact (hquote.append hchars).append hquote

theorem isWritten_of_isDigit {c : Char} (h : Text.isDigit c = true) : isWritten c = true := by
  rw [Text.isDigit, Bool.and_eq_true, decide_eq_true_eq, decide_eq_true_eq] at h
  have hlow : ' ' ≤ c := Char.le_trans (by decide) h.1
  have hhigh : c ≤ '~' := Char.le_trans h.2 (by decide)
  simp [isWritten, hlow, hhigh]

theorem allWritten_toString (n : Int) : AllWritten (toString n).toList := by
  rw [toList_toString_int]
  have hdigits : AllWritten (Nat.toDigits 10 n.natAbs) :=
    List.all_eq_true.mpr fun c hc => isWritten_of_isDigit (isDigit_of_mem_toDigits hc)
  split
  · have hsign : AllWritten ['-'] := rfl
    exact hsign.append hdigits
  · exact hdigits

theorem allWritten_scalarText {digits : Nat} {v : Value} (h : IsExact digits 0 v) :
    AllWritten (scalarText v).toList := by
  cases v with
  | null => rfl
  | bool b => cases b <;> rfl
  | whole n => exact allWritten_toString n
  | string s => exact allWritten_escapeString s
  | real x => cases h
  | array items => cases h
  | object members => cases h

theorem allWritten_lineStart (level : Nat) : AllWritten (lineStart level).toList := by
  rw [lineStart, String.toList_ofList]
  refine List.all_eq_true.mpr fun c hc => ?_
  rcases List.mem_cons.mp hc with rfl | hc
  · rfl
  · rw [(List.mem_replicate.mp hc).2]
    rfl

theorem allWritten_block {level : Nat} {opening closing : String}
    (hopening : AllWritten opening.toList) (hclosing : AllWritten closing.toList)
    {entries : List String} (h : ∀ text ∈ entries, AllWritten text.toList) :
    AllWritten (block level opening closing entries).toList := by
  by_cases hempty : entries = []
  · subst hempty
    rw [toList_block_nil]
    exact hopening.append hclosing
  · have hline := allWritten_lineStart
    have hcomma : AllWritten (',' :: (lineStart (level + 1)).toList) := hline (level + 1)
    have hentries : AllWritten
        ((',' :: (lineStart (level + 1)).toList).intercalate (entries.map String.toList)) := by
      refine hcomma.intercalate fun text htext => ?_
      obtain ⟨entry, hentry, rfl⟩ := List.mem_map.mp htext
      exact h entry hentry
    rw [toList_block _ _ _ hempty]
    exact ((hopening.append (hline (level + 1))).append (hentries.append (hline level))).append
      hclosing

/-- A value that is written exactly is written in printable ASCII and line feeds. -/
theorem allWritten_indentedAt {digits depth : Nat} {v : Value} (h : IsExact digits depth v)
    (level : Nat) : AllWritten (indentedAt level v).toList := by
  induction depth generalizing v level with
  | zero =>
      cases v with
      | array items => cases h
      | object members => cases h
      | null | bool | whole | real | string => exact allWritten_scalarText h
  | succ depth ih =>
      cases v with
      | array items =>
          have hopening : AllWritten "[".toList := rfl
          have hclosing : AllWritten "]".toList := rfl
          rw [indentedAt, indentedItems_eq]
          refine allWritten_block hopening hclosing fun text htext => ?_
          obtain ⟨item, hitem, rfl⟩ := List.mem_map.mp htext
          exact ih (h item hitem) (level + 1)
      | object members =>
          have hopening : AllWritten "\x7b".toList := rfl
          have hclosing : AllWritten "\x7d".toList := rfl
          rw [indentedAt, indentedMembers_eq]
          refine allWritten_block hopening hclosing fun text htext => ?_
          obtain ⟨member, hmember, rfl⟩ := List.mem_map.mp htext
          have hcolon : AllWritten ": ".toList := rfl
          rw [String.toList_append, String.toList_append]
          exact ((allWritten_escapeString member.1).append hcolon).append
            (ih (h.2 member hmember) (level + 1))
      | real x => cases h
      | null | bool | string => exact allWritten_scalarText (show IsExact digits 0 _ from trivial)
      | whole n => exact allWritten_scalarText h

end Abacus.Json
