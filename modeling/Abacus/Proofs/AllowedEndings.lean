/-
Module: Abacus.Proofs.AllowedEndings
Purpose: Names that end with an allowed ending, in any script. An ending is put in lower case
  alone and a name as a whole, and the two agree but for one letter: a capital sigma that nothing
  but marks precedes in the ending is at the end of a word only with what stands in front of it.
Main exports: Case.opensWithSigma, Case.lowerFrom_append_eq_iff, SameLetters, lower_congr,
  Pages.shouldHandle_append_iff
-/
import Abacus.Proofs.PageReplies

namespace Abacus

namespace Text

namespace Case

/-! ### What stands in front of a text -/

/-- Whether a character is passed over in the search for the letter next to a sigma. -/
abbrev Skipped (c : Char) : Prop :=
  inRanges caseIgnorable c = true

/-- Whether a text opens, behind characters that are passed over, with a capital sigma that no
    letter follows. -/
def opensWithSigma (text : List Char) : Bool :=
  match text.dropWhile (inRanges caseIgnorable) with
  | 'Σ' :: after => !meetsCased after
  | _ => false

theorem not_skipped_sigma : ¬ Skipped 'Σ' := by
  decide +kernel

theorem mem_of_opensWithSigma {text : List Char} (h : opensWithSigma text = true) :
    'Σ' ∈ text := by
  unfold opensWithSigma at h
  split at h
  · next after hdrop =>
      have hmem : 'Σ' ∈ text.dropWhile (inRanges caseIgnorable) := by
        rw [hdrop]
        exact List.mem_cons_self
      exact (List.dropWhile_sublist _).subset hmem
  · cases h

theorem opensWithSigma_cons_of_skipped {c : Char} (hskip : Skipped c) (after : List Char) :
    opensWithSigma (c :: after) = opensWithSigma after := by
  rw [opensWithSigma, opensWithSigma, List.dropWhile_cons_of_pos hskip]

theorem opensWithSigma_sigma (after : List Char) :
    opensWithSigma ('Σ' :: after) = !meetsCased after := by
  rw [opensWithSigma, List.dropWhile_cons_of_neg not_skipped_sigma]
  rfl

theorem opensWithSigma_cons_of_ne {c : Char} (hskip : ¬ Skipped c) (hsigma : c ≠ 'Σ')
    (after : List Char) : opensWithSigma (c :: after) = false := by
  rw [opensWithSigma, List.dropWhile_cons_of_neg hskip]
  split
  · next heq =>
      cases heq
      exact absurd rfl hsigma
  · rfl

theorem meetsCased_append_of_skipped {seen : List Char} (hskip : ∀ c ∈ seen, Skipped c)
    (before : List Char) : meetsCased (seen ++ before) = meetsCased before := by
  rw [meetsCased, meetsCased, List.dropWhile_append_of_pos hskip]

theorem meetsCased_of_skipped {seen : List Char} (hskip : ∀ c ∈ seen, Skipped c) :
    meetsCased seen = false := by
  rw [meetsCased, List.dropWhile_eq_nil_iff.mpr hskip]

/-- The search for a letter ends at a character that is not passed over. -/
theorem meetsCased_append_of_mem {seen : List Char} {c : Char} (hmem : c ∈ seen)
    (hskip : ¬ Skipped c) (before : List Char) :
    meetsCased (seen ++ before) = meetsCased seen := by
  induction seen with
  | nil => cases hmem
  | cons d seen ih =>
      by_cases hd : Skipped d
      · have hrest : c ∈ seen := by
          rcases List.mem_cons.mp hmem with rfl | hrest
          · exact absurd hd hskip
          · exact hrest
        have hlater := ih hrest
        rw [meetsCased, meetsCased] at hlater ⊢
        rw [List.cons_append, List.dropWhile_cons_of_pos hd, List.dropWhile_cons_of_pos hd]
        exact hlater
      · rw [meetsCased, meetsCased, List.cons_append, List.dropWhile_cons_of_neg hd,
          List.dropWhile_cons_of_neg hd]

/-! ### Lower case in its place -/

theorem length_lowerChar (before before' : List Char) (c : Char) (after : List Char) :
    (lowerChar before c after).length = (lowerChar before' c after).length := by
  unfold lowerChar
  split_ifs <;> rfl

/-- Two lower cases of one character in front of others agree if both parts do. -/
theorem lowerChar_append_eq_iff {before before' : List Char} {c : Char}
    {after first second : List Char} :
    lowerChar before c after ++ first = lowerChar before' c after ++ second ↔
      lowerChar before c after = lowerChar before' c after ∧ first = second :=
  ⟨fun h => List.append_inj h (length_lowerChar before before' c after),
    fun ⟨hchar, hrest⟩ => by rw [hchar, hrest]⟩

theorem lowerChar_of_ne {c : Char} (hsigma : c ≠ 'Σ') (before before' after after' : List Char) :
    lowerChar before c after = lowerChar before' c after' := by
  rw [lowerChar, lowerChar, if_neg hsigma, if_neg hsigma]

theorem lowerChar_sigma (before after : List Char) :
    lowerChar before 'Σ' after = if endsWord before after then ['ς'] else ['σ'] := by
  rw [lowerChar, if_pos rfl]

/-- What stands in front of a text does not count for the length of its lower case. -/
theorem length_lowerFrom (before before' text : List Char) :
    (lowerFrom before text).length = (lowerFrom before' text).length := by
  induction text generalizing before before' with
  | nil => rfl
  | cons c after ih =>
      rw [lowerFrom, lowerFrom, List.length_append, List.length_append, ih (c :: before),
        length_lowerChar before before']

/-- The lower case of a text ends with that of its last part, in its place. -/
theorem lowerFrom_append (before front text : List Char) :
    lowerFrom (front.reverse ++ before) text <:+ lowerFrom before (front ++ text) := by
  induction front generalizing before with
  | nil => exact List.suffix_rfl
  | cons c front ih =>
      have hrest := ih (c :: before)
      rw [List.reverse_cons, List.append_assoc, List.singleton_append]
      exact hrest.trans (List.suffix_append _ _)

/-- Behind a character that is not passed over, it does not count what stands further in front. -/
theorem lowerFrom_append_of_mem {seen : List Char} {d : Char} (hmem : d ∈ seen)
    (hskip : ¬ Skipped d) (before text : List Char) :
    lowerFrom (seen ++ before) text = lowerFrom seen text := by
  induction text generalizing seen with
  | nil => rfl
  | cons c after ih =>
      have hchar : lowerChar (seen ++ before) c after = lowerChar seen c after := by
        rw [lowerChar, lowerChar, endsWord, endsWord, meetsCased_append_of_mem hmem hskip]
      have hrest := ih (List.mem_cons_of_mem c hmem)
      rw [lowerFrom, lowerFrom, hchar, ← List.cons_append, hrest]

/-- Behind characters that are passed over, it counts only for a text that opens with a capital
    sigma, and then only whether a letter stands in front. -/
theorem lowerFrom_append_eq_iff {seen : List Char} (hskip : ∀ d ∈ seen, Skipped d)
    (before text : List Char) :
    lowerFrom (seen ++ before) text = lowerFrom seen text ↔
      ¬ (opensWithSigma text = true ∧ meetsCased before = true) := by
  induction text generalizing seen with
  | nil => exact iff_of_true rfl fun h => Bool.false_ne_true h.1
  | cons c after ih =>
      rw [lowerFrom, lowerFrom, lowerChar_append_eq_iff]
      by_cases hc : Skipped c
      · have hne : c ≠ 'Σ' := by
          rintro rfl
          exact not_skipped_sigma hc
        have hseen : ∀ d ∈ c :: seen, Skipped d := List.forall_mem_cons.mpr ⟨hc, hskip⟩
        rw [← List.cons_append, ih hseen, opensWithSigma_cons_of_skipped hc]
        exact and_iff_right (lowerChar_of_ne hne _ _ after after)
      · have hrest : lowerFrom (c :: (seen ++ before)) after = lowerFrom (c :: seen) after :=
          lowerFrom_append_of_mem List.mem_cons_self hc before after
        rw [and_iff_left hrest]
        by_cases hsigma : c = 'Σ'
        · subst hsigma
          have halone : endsWord seen after = false := by
            rw [endsWord, meetsCased_of_skipped hskip, Bool.false_and]
          rw [lowerChar_sigma, lowerChar_sigma, halone, endsWord,
            meetsCased_append_of_skipped hskip, opensWithSigma_sigma]
          cases meetsCased before <;> cases meetsCased after <;> decide
        · rw [opensWithSigma_cons_of_ne hc hsigma]
          exact iff_of_true (lowerChar_of_ne hsigma _ _ after after) fun h => Bool.false_ne_true h.1

/-! ### The case of ASCII letters -/

theorem toLower_eq_or (c : Char) : c.toLower = c ∨ ∃ n < 26, c = Char.ofNat (65 + n) := by
  by_cases hcapital : 65 ≤ c.toNat ∧ c.toNat ≤ 90
  · refine .inr ⟨c.toNat - 65, by omega, ?_⟩
    rw [Nat.add_sub_cancel' hcapital.1, Char.ofNat_toNat]
  · exact .inl (dif_neg fun h => hcapital ⟨h.1, h.2⟩)

/-- What is looked at in a character to put a text in lower case, apart from its place. -/
structure Alike (c d : Char) : Prop where
  cased : inRanges cased c = inRanges cased d
  skipped : inRanges caseIgnorable c = inRanges caseIgnorable d
  lowered : ∀ before after : List Char, lowerChar before c after = lowerChar before d after

/-- The capital letters of ASCII are like their small letters. -/
theorem alike_capital {n : Nat} (hn : n < 26) :
    Alike (Char.ofNat (65 + n)).toLower (Char.ofNat (65 + n)) := by
  have hsigma : ∀ n < 26, (Char.ofNat (65 + n)).toLower ≠ 'Σ' ∧ Char.ofNat (65 + n) ≠ 'Σ' := by
    decide
  have hcased : ∀ n < 26,
      inRanges Case.cased (Char.ofNat (65 + n)).toLower =
        inRanges Case.cased (Char.ofNat (65 + n)) := by
    decide +kernel
  have hskipped : ∀ n < 26,
      inRanges caseIgnorable (Char.ofNat (65 + n)).toLower =
        inRanges caseIgnorable (Char.ofNat (65 + n)) := by
    decide +kernel
  have hlowered : ∀ n < 26,
      lowerChar [] (Char.ofNat (65 + n)).toLower [] = lowerChar [] (Char.ofNat (65 + n)) [] := by
    decide +kernel
  refine ⟨hcased n hn, hskipped n hn, fun before after => ?_⟩
  rw [lowerChar_of_ne (hsigma n hn).1 before [] after [], hlowered n hn,
    lowerChar_of_ne (hsigma n hn).2 [] before [] after]

theorem alike_toLower (c : Char) : Alike c.toLower c := by
  rcases toLower_eq_or c with hsame | ⟨n, hn, rfl⟩
  · rw [hsame]
    exact ⟨rfl, rfl, fun _ _ => rfl⟩
  · exact alike_capital hn

theorem meetsCased_map_toLower (text : List Char) :
    meetsCased (text.map Char.toLower) = meetsCased text := by
  have hskip : inRanges caseIgnorable ∘ Char.toLower = inRanges caseIgnorable :=
    funext fun c => (alike_toLower c).skipped
  rw [meetsCased, meetsCased, List.dropWhile_map, hskip]
  cases text.dropWhile (inRanges caseIgnorable) with
  | nil => rfl
  | cons c rest => exact (alike_toLower c).cased

theorem lowerChar_map_toLower (before : List Char) (c : Char) (after : List Char) :
    lowerChar (before.map Char.toLower) c (after.map Char.toLower) = lowerChar before c after := by
  rw [lowerChar, lowerChar, endsWord, endsWord, meetsCased_map_toLower, meetsCased_map_toLower]

/-- A text and the same text with small ASCII letters have one lower case. -/
theorem lowerFrom_map_toLower (before text : List Char) :
    lowerFrom (before.map Char.toLower) (text.map Char.toLower) = lowerFrom before text := by
  induction text generalizing before with
  | nil => rfl
  | cons c after ih =>
      rw [List.map_cons, lowerFrom, lowerFrom, (alike_toLower c).lowered, lowerChar_map_toLower,
        ← List.map_cons, ih]

end Case

/-- Two texts agree but for the case of ASCII letters. -/
def SameLetters (first second : String) : Prop :=
  first.toList.map Char.toLower = second.toList.map Char.toLower

instance (first second : String) : Decidable (SameLetters first second) :=
  inferInstanceAs (Decidable (_ = _))

theorem SameLetters.lower_eq {first second : String} (h : SameLetters first second) :
    lower first = lower second := by
  rw [lower, lower, ← Case.lowerFrom_map_toLower, ← Case.lowerFrom_map_toLower [] second.toList, h]

/-- A capital sigma that opens an ending gets the form it has at the end of a word only from what
    stands in front of the ending. -/
def SigmaTurns (front ending : String) : Prop :=
  Case.opensWithSigma ending.toList = true ∧ Case.meetsCased front.toList.reverse = true

instance (front ending : String) : Decidable (SigmaTurns front ending) :=
  inferInstanceAs (Decidable (_ ∧ _))

theorem not_sigmaTurns_of_not_mem {ending : String} (h : 'Σ' ∉ ending.toList) (front : String) :
    ¬ SigmaTurns front ending :=
  fun hturns => h (Case.mem_of_opensWithSigma hturns.1)

/-- The lower case of an ending that stands alone ends the lower case of a text that it ends,
    exactly if no sigma turns. -/
theorem lower_suffix_lower_append_iff (front ending : String) :
    (lower ending).toList <:+ (lower (front ++ ending)).toList ↔ ¬ SigmaTurns front ending := by
  have hplace : Case.lowerFrom front.toList.reverse ending.toList <:+
      Case.lowerFrom [] (front.toList ++ ending.toList) := by
    have happend := Case.lowerFrom_append [] front.toList ending.toList
    rwa [List.append_nil] at happend
  have hlength : (Case.lowerFrom [] ending.toList).length =
      (Case.lowerFrom front.toList.reverse ending.toList).length :=
    Case.length_lowerFrom _ _ _
  have halone : ∀ c ∈ ([] : List Char), Case.Skipped c := nofun
  have hturn := Case.lowerFrom_append_eq_iff halone front.toList.reverse ending.toList
  rw [lower, lower, String.toList_ofList, String.toList_ofList, String.toList_append]
  refine Iff.trans ⟨fun hsuffix => ?_, fun heq => ?_⟩ hturn
  · exact ((List.suffix_of_suffix_length_le hsuffix hplace hlength.le).eq_of_length hlength).symm
  · rw [List.nil_append] at heq
    rwa [← heq]

end Text

namespace Server

namespace Pages

open Text (SameLetters SigmaTurns)

theorem shouldHandle_iff {pages : Pages} {name : String} :
    pages.shouldHandle name = true ↔
      ∃ ending ∈ pages.extensions, ending.toList <:+ (Text.lower name).toList := by
  simp only [shouldHandle, List.any_eq_true, List.isSuffixOf_iff_suffix]

/-- A name that ends with one of the extensions, whatever the case of its ASCII letters, is
    handled unless a capital sigma at the front of the extension turns. Where one turns, the name
    is handled only through another extension. -/
theorem shouldHandle_append_iff {tree : Files.Tree} {depth pageDepth : Nat}
    {resourcePath : String} {extensions : List String} {pages : Pages} {ending : String}
    (hcreate : create tree depth pageDepth resourcePath extensions = .ok pages)
    (hending : ending ∈ extensions) {front name : String}
    (hname : SameLetters name (front ++ ending)) :
    (pages.shouldHandle name = true ↔ ¬ SigmaTurns front ending ∨
      ∃ other ∈ extensions, other ≠ ending ∧
        (Text.lower other).toList <:+ (Text.lower name).toList) := by
  have hown : (Text.lower ending).toList <:+ (Text.lower name).toList ↔
      ¬ SigmaTurns front ending := by
    rw [hname.lower_eq]
    exact Text.lower_suffix_lower_append_iff front ending
  simp only [shouldHandle_iff, (create_eq_ok hcreate).1, List.mem_map, exists_exists_and_eq_and]
  rw [← hown]
  constructor
  · rintro ⟨other, hother, hsuffix⟩
    by_cases hsame : other = ending
    · exact .inl (hsame ▸ hsuffix)
    · exact .inr ⟨other, hother, hsame, hsuffix⟩
  · rintro (hsuffix | ⟨other, hother, -, hsuffix⟩)
    · exact ⟨ending, hending, hsuffix⟩
    · exact ⟨other, hother, hsuffix⟩

/-- A name in capital letters ends with the usual extension. -/
theorem shouldHandle_append_iff_html :
    create ⟨[], []⟩ 0 0 "" [".html"] = .ok ⟨none, [".html"], 0⟩ ∧ ".html" ∈ [".html"] ∧
      SameLetters "INDEX.HTML" ("index" ++ ".html") ∧
      (⟨none, [".html"], 0⟩ : Pages).shouldHandle "INDEX.HTML" = true := by
  have hlower : [".html"].map Text.lower = [".html"] := by rfl
  have hcreate : create ⟨[], []⟩ 0 0 "" [".html"] = .ok ⟨none, [".html"], 0⟩ := by
    rw [create, hlower]
    rfl
  have hname : SameLetters "INDEX.HTML" ("index" ++ ".html") := by decide
  have hsigma : ¬ SigmaTurns "index" ".html" := Text.not_sigmaTurns_of_not_mem (by decide) "index"
  have hmem : ".html" ∈ [".html"] := List.mem_singleton_self ".html"
  exact ⟨hcreate, hmem, hname, (shouldHandle_append_iff hcreate hmem hname).mpr (.inl hsigma)⟩

/-- A name that ends with the only extension, a dot and a capital sigma, is not handled. -/
theorem not_shouldHandle_sigma :
    create ⟨[], []⟩ 0 0 "" [".Σ"] = .ok ⟨none, [".σ"], 0⟩ ∧ ".Σ" ∈ [".Σ"] ∧
      (⟨none, [".σ"], 0⟩ : Pages).shouldHandle ("a" ++ ".Σ") = false := by
  have hlower : [".Σ"].map Text.lower = [".σ"] := by rfl
  refine ⟨?_, List.mem_singleton_self ".Σ", by decide +kernel⟩
  rw [create, hlower]
  rfl

end Pages

end Server

end Abacus
