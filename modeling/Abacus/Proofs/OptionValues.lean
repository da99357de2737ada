/-
Module: Abacus.Proofs.OptionValues
Purpose: The values that options get from a command line. Whatever the command line is, an option of
  the grammar gets a value of its kind, or none where the separator stands in place of one. And all
  values can be given, in any order, each behind the name of its option and an equals sign.
Main exports: Kind.Allows, Grammar.Fits, fits_of_parse, Attached, Attached.Gives, parse_attached
-/
import Mathlib.Data.List.Basic
import Abacus.Proofs.SeparatedOperands
import Abacus.Proofs.WrittenNumbers

namespace Abacus.Options

variable {κ : Type} {grammar : Grammar κ}

/-- The values that an option of a kind may get: of the numbers, those that can be written. One that
    takes a value may be left without one. -/
def Kind.Allows : Kind → Value → Prop
  | .flag, .present => True
  | .text, .text _ => True
  | .whole, .whole n => Text.IsWritable n
  | .choice words, .text s => s ∈ words
  | kind, .blank => kind.takesValue = true
  | _, _ => False

/-- All values are those of options of the grammar, and of their kinds. -/
def Grammar.Fits (grammar : Grammar κ) (values : List (κ × Value)) : Prop :=
  ∀ entry ∈ values, ∃ opt ∈ grammar.options, opt.key = entry.1 ∧ opt.kind.Allows entry.2

theorem Grammar.Fits.of_value? [BEq κ] [LawfulBEq κ] {parsed : Parsed κ}
    (h : grammar.Fits parsed.values) {key : κ} {value : Value}
    (hvalue : parsed.value? key = some value) :
    ∃ opt ∈ grammar.options, opt.key = key ∧ opt.kind.Allows value := by
  obtain ⟨before, behind, hvalues, _⟩ := List.lookup_eq_some_iff.mp hvalue
  apply h (key, value)
  rw [hvalues]
  exact List.mem_append_right before List.mem_cons_self

/-! ### Which options an argument names -/

theorem mem_options_of_mem_names {entry : String × Opt κ} (h : entry ∈ grammar.names) :
    entry.2 ∈ grammar.options := by
  obtain ⟨opt, hopt, hentry⟩ := List.mem_flatMap.mp h
  obtain ⟨name, _, rfl⟩ := List.mem_map.mp hentry
  exact hopt

theorem mem_names_of_find? {name : String} {opt : Opt κ} (h : grammar.find? name = some opt) :
    (name, opt) ∈ grammar.names := by
  obtain ⟨before, behind, hnames, _⟩ := List.lookup_eq_some_iff.mp h
  rw [hnames]
  exact List.mem_append_right before List.mem_cons_self

theorem mem_options_of_find? {name : String} {opt : Opt κ} (h : grammar.find? name = some opt) :
    opt ∈ grammar.options :=
  mem_options_of_mem_names (mem_names_of_find? h)

theorem mem_options_of_inFull? {argument : List Char} {named : Named κ}
    (h : inFull? grammar argument = some named) : named.opt ∈ grammar.options := by
  unfold inFull? at h
  split at h
  · next opt hopt =>
      cases h
      exact mem_options_of_find? hopt
  · obtain ⟨value, _, hvalue⟩ := Option.bind_eq_some_iff.mp h
    obtain ⟨opt, hopt, hnamed⟩ := Option.bind_eq_some_iff.mp hvalue
    cases hnamed
    exact mem_options_of_find? hopt

theorem mem_options_of_mem_candidates {argument : List Char} {named : Named κ}
    (h : named ∈ candidates grammar argument) : named.opt ∈ grammar.options := by
  unfold candidates at h
  split at h
  · obtain ⟨⟨name, opt⟩, hentry, hnamed⟩ := List.mem_filterMap.mp h
    simp only at hnamed
    split at hnamed
    · cases hnamed
      exact mem_options_of_mem_names hentry
    · cases hnamed
  · obtain ⟨⟨name, opt⟩, hentry, hnamed⟩ := List.mem_filterMap.mp h
    simp only at hnamed
    split at hnamed
    · cases hnamed
      exact mem_options_of_mem_names hentry
    · split at hnamed
      · cases hnamed
        exact mem_options_of_mem_names hentry
      · cases hnamed

theorem mem_options_of_classify {argument : List Char} {named : Named κ}
    (h : classify grammar argument = .ok (.option named)) : named.opt ∈ grammar.options := by
  unfold classify at h
  split at h
  · cases h
  · cases h
  · split at h
    · next found hfound =>
        cases h
        exact mem_options_of_inFull? hfound
    · split at h
      · next found hfound =>
          cases h
          have hmem : named ∈ [named] := List.mem_singleton_self named
          rw [← hfound] at hmem
          exact mem_options_of_mem_candidates hmem
      · split at h <;> cases h
      · cases h
  · cases h

/-- Arguments name options of the grammar only. -/
def NamesOptions (grammar : Grammar κ) (items : List (String × Mark κ)) : Prop :=
  ∀ (text : String) (named : Named κ), (text, .option named) ∈ items →
    named.opt ∈ grammar.options

theorem namesOptions_of_mark {arguments : List String} {items : List (String × Mark κ)}
    (h : mark grammar arguments = .ok items) : NamesOptions grammar items := by
  induction arguments generalizing items with
  | nil =>
      cases h
      intro text named hmem
      cases hmem
  | cons argument rest ih =>
      rw [mark] at h
      split at h
      · cases h
        intro text named hmem
        rcases List.mem_cons.mp hmem with hfirst | hlater
        · cases hfirst
        · obtain ⟨_, _, hplain⟩ := List.mem_map.mp hlater
          cases hplain
      · obtain ⟨found, hfound, hrest⟩ := bind_eq_ok h
        obtain ⟨more, hmore, hitems⟩ := bind_eq_ok hrest
        cases hitems
        intro text named hmem
        rcases List.mem_cons.mp hmem with hfirst | hlater
        · cases hfirst
          exact mem_options_of_classify hfound
        · exact ih hmore text named hlater

/-! ### Options with their values -/

/-- Options of the grammar; those with a text take a value, and all but the last one that take a
    value have a text. -/
structure Expects (grammar : Grammar κ) (found : List (Use κ)) : Prop where
  known : ∀ use ∈ found, use.1 ∈ grammar.options
  takes : ∀ use ∈ found, use.2.isSome = true → use.1.kind.takesValue = true
  earlier : ∀ use ∈ found.dropLast, use.2 = none → use.1.kind.takesValue = false

/-- Options of the grammar with a text exactly if they take a value. -/
def Complete (grammar : Grammar κ) (found : List (Use κ)) : Prop :=
  ∀ use ∈ found, use.1 ∈ grammar.options ∧ use.2.isSome = use.1.kind.takesValue

theorem expects_singleton {opt : Opt κ} {text : Option String} (hopt : opt ∈ grammar.options)
    (htakes : text.isSome = true → opt.kind.takesValue = true) :
    Expects grammar [(opt, text)] where
  known := by
    intro use huse
    rw [List.mem_singleton.mp huse]
    exact hopt
  takes := by
    intro use huse
    rw [List.mem_singleton.mp huse]
    exact htakes
  earlier := nofun

/-- An option that takes no value may stand in front. -/
theorem Expects.cons {opt : Opt κ} {found : List (Use κ)} (hopt : opt ∈ grammar.options)
    (hflag : opt.kind.takesValue = false) (hfound : Expects grammar found) :
    Expects grammar ((opt, none) :: found) where
  known := by
    intro use huse
    rcases List.mem_cons.mp huse with rfl | hlater
    · exact hopt
    · exact hfound.known use hlater
  takes := by
    intro use huse hsome
    rcases List.mem_cons.mp huse with rfl | hlater
    · cases hsome
    · exact hfound.takes use hlater hsome
  earlier := by
    intro use huse hnone
    cases found with
    | nil => cases huse
    | cons next found =>
        rw [List.dropLast_cons_cons] at huse
        rcases List.mem_cons.mp huse with rfl | hlater
        · exact hflag
        · exact hfound.earlier use hlater hnone

/-- Letters behind one hyphen: only the last option may still wait for its value. -/
theorem expects_expand {opt : Opt κ} {short : Bool} {attached : List Char} {found : List (Use κ)}
    (h : expand grammar opt short attached = .ok found) (hopt : opt ∈ grammar.options) :
    Expects grammar found := by
  induction attached generalizing opt found with
  | nil => cases h
  | cons c more ih =>
      rw [expand] at h
      split at h
      · next htakes =>
          cases h
          exact expects_singleton hopt fun _ => htakes
      · next hflag =>
          have hflag : opt.kind.takesValue = false := Bool.eq_false_iff.mpr hflag
          split at h
          · cases h
          · next next hnext =>
              have hnext : next ∈ grammar.options := by
                split at hnext
                · exact mem_options_of_find? hnext
                · cases hnext
              split at h
              · cases h
                have hlast : Expects grammar [(next, none)] := expects_singleton hnext nofun
                exact hlast.cons hopt hflag
              · obtain ⟨later, hlater, hfound⟩ := bind_eq_ok h
                cases hfound
                exact (ih hlater hnext).cons hopt hflag

theorem expects_uses {named : Named κ} {found : List (Use κ)} (h : uses grammar named = .ok found)
    (hopt : named.opt ∈ grammar.options) : Expects grammar found := by
  unfold uses at h
  split at h
  · cases h
    exact expects_singleton hopt nofun
  · split at h
    · next htakes =>
        cases h
        exact expects_singleton hopt fun _ => htakes
    · cases h
  · exact expects_expand h hopt

/-- The value of the last option is the argument behind it, so no option is left waiting. -/
theorem Expects.complete {found taken : List (Use κ)} {rest left : List (String × Mark κ)}
    (hfound : Expects grammar found) (h : takeValue found rest = .ok (taken, left)) :
    Complete grammar taken := by
  rcases List.eq_nil_or_concat' found with rfl | ⟨before, ⟨opt, attached⟩, rfl⟩
  · cases h
    intro use huse
    cases huse
  · have hopt := hfound.known (opt, attached) (List.mem_append_right _ List.mem_cons_self)
    have hbefore : Complete grammar before := by
      intro use huse
      have hmem : use ∈ before ++ [(opt, attached)] := List.mem_append_left _ huse
      refine ⟨hfound.known use hmem, ?_⟩
      cases htext : use.2 with
      | none =>
          have hfirst : use ∈ (before ++ [(opt, attached)]).dropLast := by
            rwa [List.dropLast_concat]
          exact (hfound.earlier use hfirst htext).symm
      | some text => exact (hfound.takes use hmem (by rw [htext]; rfl)).symm
    have hconcat : ∀ text : Option String, text.isSome = opt.kind.takesValue →
        Complete grammar (before ++ [(opt, text)]) := by
      intro text htext use huse
      rcases List.mem_append.mp huse with hfirst | hlast
      · exact hbefore use hfirst
      · rw [List.mem_singleton.mp hlast]
        exact ⟨hopt, htext⟩
    rw [takeValue, List.getLast?_concat, List.dropLast_concat] at h
    cases attached with
    | some text =>
        cases h
        exact hconcat _ (hfound.takes _ (List.mem_append_right _ List.mem_cons_self) rfl).symm
    | none =>
        simp only at h
        split at h
        · next htakes =>
            split at h
            · cases h
              exact hconcat _ htakes.symm
            · cases h
        · next hflag =>
            cases h
            exact hconcat _ (Bool.eq_false_iff.mpr hflag).symm

theorem subset_of_takeValue {found taken : List (Use κ)} {rest left : List (String × Mark κ)}
    (h : takeValue found rest = .ok (taken, left)) : left ⊆ rest := by
  unfold takeValue at h
  split at h
  · split at h
    · split at h
      · cases h
        exact List.subset_cons_self _ _
      · cases h
    · cases h
      exact List.Subset.refl _
  · cases h
    exact List.Subset.refl _

/-! ### Values of the right kind -/

theorem allows_of_convert {opt : Opt κ} {text : String} {value : Value}
    (htakes : opt.kind.takesValue = true) (h : convert opt text = .ok value) :
    opt.kind.Allows value := by
  unfold convert at h
  split at h
  · next hkind =>
      split at h
      · next n hread =>
          cases h
          rw [hkind]
          exact Text.isWritable_of_readWhole? hread
      · cases h
  · next words hkind =>
      split at h
      · next hword =>
          cases h
          rw [hkind]
          exact hword
      · cases h
  · next hwhole hchoice =>
      cases h
      cases hkind : opt.kind with
      | text => trivial
      | help | flag =>
          rw [hkind] at htakes
          cases htakes
      | whole => exact absurd hkind hwhole
      | choice words => exact absurd hkind (hchoice words)

theorem fits_of_apply {parsed next : Parsed κ} {use : Use κ} (h : apply parsed use = .ok next)
    (hknown : use.1 ∈ grammar.options) (hcomplete : use.2.isSome = use.1.kind.takesValue)
    (hfits : grammar.Fits parsed.values) : grammar.Fits next.values := by
  have hcons : ∀ value : Value, use.1.kind.Allows value →
      grammar.Fits ((use.1.key, value) :: parsed.values) := by
    intro value hallows entry hentry
    rcases List.mem_cons.mp hentry with rfl | hlater
    · exact ⟨use.1, hknown, rfl, hallows⟩
    · exact hfits entry hlater
  unfold apply at h
  split at h
  · cases h
  · next htext hkind =>
      cases h
      apply hcons
      rw [htext] at hcomplete
      cases hsame : use.1.kind with
      | help => exact absurd hsame hkind
      | flag => trivial
      | text | whole | choice words =>
          rw [hsame] at hcomplete
          cases hcomplete
  · next text htext hkind =>
      rw [htext] at hcomplete
      split at h
      · cases h
        apply hcons
        cases hsame : use.1.kind with
        | text | whole | choice words => rfl
        | help | flag =>
            rw [hsame] at hcomplete
            cases hcomplete
      · obtain ⟨value, hvalue, hnext⟩ := bind_eq_ok h
        cases hnext
        apply hcons
        exact allows_of_convert hcomplete.symm hvalue

theorem fits_of_foldlM {parsed next : Parsed κ} {found : List (Use κ)}
    (h : found.foldlM apply parsed = .ok next) (hfound : Complete grammar found)
    (hfits : grammar.Fits parsed.values) : grammar.Fits next.values := by
  induction found generalizing parsed with
  | nil =>
      cases h
      exact hfits
  | cons use found ih =>
      obtain ⟨first, hfirst, hrest⟩ := bind_eq_ok h
      obtain ⟨⟨hknown, hcomplete⟩, hlater⟩ := List.forall_mem_cons.mp hfound
      exact ih hrest hlater (fits_of_apply hfirst hknown hcomplete hfits)

theorem fits_of_parseMarked {parsed last : Parsed κ} {items : List (String × Mark κ)}
    (h : parseMarked grammar parsed items = .ok last) (hnamed : NamesOptions grammar items)
    (hfits : grammar.Fits parsed.values) : grammar.Fits last.values := by
  fun_induction parseMarked grammar parsed items with
  | case1 =>
      cases h
      exact hfits
  | case2 parsed text rest ih =>
      exact ih h (fun text named hmem => hnamed text named (List.mem_cons_of_mem _ hmem)) hfits
  | case3 | case4 | case5 => cases h
  | case6 parsed text named rest found huses uses left htake next happly _ ih =>
      have hcomplete : Complete grammar uses :=
        (expects_uses huses (hnamed text named List.mem_cons_self)).complete htake
      refine ih h ?_ (fits_of_foldlM happly hcomplete hfits)
      intro text named hmem
      exact hnamed text named (List.mem_cons_of_mem _ (subset_of_takeValue htake hmem))
  | case7 parsed item rest _ _ _ run next ih =>
      have hnext : next.values = parsed.values := by
        simp only [next]
        split <;> rfl
      refine ih h ?_ (hnext ▸ hfits)
      intro text named hmem
      have hrest := (List.dropWhile_sublist _).subset hmem
      exact hnamed text named (List.mem_cons_of_mem _ hrest)

/-- Every option of a command line that is understood gets a value of its kind. -/
theorem fits_of_parse {arguments : List String} {parsed : Parsed κ}
    (h : parse grammar arguments = .ok parsed) : grammar.Fits parsed.values := by
  obtain ⟨items, hmark, hrest⟩ := bind_eq_ok h
  obtain ⟨last, hlast, hend⟩ := bind_eq_ok hrest
  have hitems : mark grammar arguments = .ok items := by
    cases hmarked : mark grammar arguments with
    | error message =>
        rw [hmarked] at hmark
        cases hmark
    | ok marked =>
        rw [hmarked] at hmark
        cases hmark
        rfl
  split at hend
  · cases hend
    exact fits_of_parseMarked hlast (namesOptions_of_mark hitems) nofun
  · cases hend

/-! ### Options with their values behind an equals sign -/

/-- An option with a text, by one of its names. -/
structure Attached (κ : Type) where
  opt : Opt κ
  name : String
  text : String

/-- The argument that gives the text to the option. -/
def Attached.argument (given : Attached κ) : String :=
  given.name ++ "=" ++ given.text

/-- An option of the grammar, by a name with two hyphens, is given a value by its text. -/
structure Attached.Gives (grammar : Grammar κ) (given : Attached κ) (value : Value) : Prop where
  known : grammar.find? given.name = some given.opt
  long : given.name.toList.take 2 = ['-', '-']
  takes : given.opt.kind.takesValue = true
  text_ne : given.text ≠ "--"
  converts : convert given.opt given.text = .ok value

section

variable {given : Attached κ} {value : Value} (h : given.Gives grammar value)

include h

theorem Attached.Gives.uses :
    uses grammar ⟨given.opt, given.name, some given.text.toList⟩ =
      .ok [(given.opt, some given.text)] := by
  cases htext : given.text.toList with
  | nil => simp only [Options.uses, h.takes, if_true, String.toList_eq_nil_iff.mp htext]
  | cons c more =>
      have hexpand : ∀ short : Bool, expand grammar given.opt short (c :: more) =
          .ok [(given.opt, some given.text)] := by
        intro short
        rw [expand, if_pos h.takes, ← htext, String.ofList_toList]
      exact hexpand _

theorem Attached.Gives.apply (parsed : Parsed κ) :
    apply parsed (given.opt, some given.text) =
      .ok { parsed with values := (given.opt.key, value) :: parsed.values } := by
  have hkind : given.opt.kind ≠ .help := by
    intro hhelp
    have htakes := h.takes
    rw [hhelp] at htakes
    cases htakes
  unfold Options.apply
  split
  · next hhelp => exact absurd hhelp hkind
  · next hnone _ => cases hnone
  · next text htext _ =>
      cases htext
      rw [if_neg h.text_ne, h.converts]
      rfl

/-- The name ends where the equals sign stands, and what is behind it is the text. -/
theorem Attached.Gives.classify (hplain : ∀ entry ∈ grammar.names, '=' ∉ entry.1.toList) :
    classify grammar given.argument.toList =
      .ok (.option ⟨given.opt, given.name, some given.text.toList⟩) := by
  have hname : '=' ∉ given.name.toList := hplain _ (mem_names_of_find? h.known)
  have hargument : given.argument.toList = given.name.toList ++ '=' :: given.text.toList := by
    simp [argument]
  have hbefore : ∀ c ∈ given.name.toList, (decide (c ≠ '=')) = true := by
    intro c hc
    exact decide_eq_true fun hequals => hname (hequals ▸ hc)
  have hwhole : grammar.find? (String.ofList given.argument.toList) = none := by
    apply List.lookup_eq_none_iff.mpr
    intro entry hentry
    apply bne_iff_ne.mpr
    intro hsame
    apply hplain entry hentry
    rw [← hsame, String.toList_ofList, hargument]
    exact List.mem_append_right _ List.mem_cons_self
  have hvalue : attachedValue? given.argument.toList = some given.text.toList := by
    rw [attachedValue?, hargument, List.dropWhile_append_of_pos hbefore]
    rfl
  have hcut : String.ofList (beforeValue given.argument.toList) = given.name := by
    rw [beforeValue, hargument, List.takeWhile_append_of_pos hbefore]
    simp
  have hfound : inFull? grammar given.argument.toList =
      some ⟨given.opt, given.name, some given.text.toList⟩ := by
    simp only [inFull?, hwhole, hvalue, hcut, h.known, Option.bind_eq_bind, Option.bind_some]
  obtain ⟨rest, hrest⟩ : ∃ rest : List Char, given.name.toList = '-' :: '-' :: rest :=
    ⟨_, (List.take_append_drop 2 given.name.toList).symm.trans (by rw [h.long]; rfl)⟩
  rw [hrest, List.cons_append, List.cons_append] at hargument
  rw [hargument] at hfound ⊢
  rw [Options.classify, hfound]
  exact List.cons_ne_nil _ _

theorem Attached.Gives.mark (hplain : ∀ entry ∈ grammar.names, '=' ∉ entry.1.toList)
    {rest : List String} {items : List (String × Mark κ)} (hrest : mark grammar rest = .ok items) :
    mark grammar (given.argument :: rest) =
      .ok ((given.argument, .option ⟨given.opt, given.name, some given.text.toList⟩) :: items) := by
  have hequals : '=' ∈ given.argument.toList := by simp [argument]
  have hne : given.argument ≠ "--" := by
    intro hsame
    rw [hsame] at hequals
    exact absurd hequals (by decide)
  rw [Options.mark, if_neg hne, h.classify hplain, hrest]
  rfl

end

/-- Arguments with values behind equals signs are marked as what they are. -/
def markAttached (given : Attached κ) : String × Mark κ :=
  (given.argument, .option ⟨given.opt, given.name, some given.text.toList⟩)

section

variable {all : List (Attached κ × Value)}
  (hall : ∀ entry ∈ all, entry.1.Gives grammar entry.2)

include hall

theorem mark_attached (hplain : ∀ entry ∈ grammar.names, '=' ∉ entry.1.toList) :
    mark grammar (all.map fun entry => entry.1.argument) =
      .ok (all.map fun entry => markAttached entry.1) := by
  induction all with
  | nil => rfl
  | cons entry all ih =>
      obtain ⟨hentry, hlater⟩ := List.forall_mem_cons.mp hall
      exact hentry.mark hplain (ih hlater)

/-- The values are taken over one by one, each in front of those before. -/
theorem parseMarked_attached (parsed : Parsed κ) :
    parseMarked grammar parsed (all.map fun entry => markAttached entry.1) =
      .ok { parsed with
        values := (all.map fun entry => (entry.1.opt.key, entry.2)).reverse ++ parsed.values } := by
  induction all generalizing parsed with
  | nil => rw [List.map_nil, parseMarked, List.map_nil, List.reverse_nil, List.nil_append]
  | cons entry all ih =>
      obtain ⟨hentry, hlater⟩ := List.forall_mem_cons.mp hall
      have happly : [(entry.1.opt, some entry.1.text)].foldlM apply parsed =
          .ok { parsed with values := (entry.1.opt.key, entry.2) :: parsed.values } := by
        rw [List.foldlM_cons, hentry.apply]
        rfl
      rw [List.map_cons, markAttached, parseMarked_option hentry.uses rfl happly, ih hlater,
        List.map_cons, List.reverse_cons, List.append_assoc]
      rfl

/-- Whatever values are given, each behind the name of its option, these are the values that the
    options get. -/
theorem parse_attached (hplain : ∀ entry ∈ grammar.names, '=' ∉ entry.1.toList) :
    parse grammar (all.map fun entry => entry.1.argument) =
      .ok { values := (all.map fun entry => (entry.1.opt.key, entry.2)).reverse } := by
  rw [parse, mark_attached hall hplain]
  change (parseMarked grammar {} _ >>= _) = _
  rw [parseMarked_attached hall, List.append_nil]
  rfl

end

end Abacus.Options
