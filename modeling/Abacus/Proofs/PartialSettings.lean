/-
Module: Abacus.Proofs.PartialSettings
Purpose: Files that give some of the settings. Whatever JSON text an object is written in, the last
  member with the name of a field gives the field, in any order and among any other members, and
  a field that no member names is as it is by default; except that a text beyond the limits of the
  reader breaks it off, whatever settings it gives: one whose brackets are nested too deep, or with
  a number of too many digits.
Main exports: ObjectText, Field, Settings.only, Settings.Gives, Settings.ofMembers_only,
  loadSettings_only
-/
import Abacus.Proofs.CompactWriting
import Abacus.Proofs.JsonDepth
import Abacus.Proofs.JsonLines
import Abacus.Proofs.SavedSettings
import Abacus.Proofs.ServeOutcome

namespace Abacus

open Json (Value)

namespace Json

/-! ### Texts of objects -/

/-- A text is JSON for an object, and `last` gives the value of its last member with each name. It
    may be written in any way of the grammar, or in another way that is read within some limits,
    with halves of pairs of code units in its strings. -/
inductive ObjectText (last : String → Option Value) : List Char → Prop where
  | empty {before gap behind : List Char} (hbefore : IsGapText before) (hgap : IsGapText gap)
      (hbehind : IsGapText behind) (hlast : ∀ name : String, last name = none) :
      ObjectText last (before ++ ('\x7b' :: gap ++ ['\x7d'] ++ behind))
  | written {digits depth : Nat} {members : List (String × Value)}
      {before gap inner behind : List Char}
      (hmembers : ListText (MemberText (ValueText digits depth)) members inner)
      (hbefore : IsGapText before) (hgap : IsGapText gap) (hbehind : IsGapText behind)
      (hlast : ∀ name : String, last name = members.reverse.lookup name) :
      ObjectText last (before ++ ('\x7b' :: gap ++ inner ++ ['\x7d'] ++ behind))
  | read {digits depth : Nat} {members : List (String × Value)} {text : List Char}
      (hread : readWithin digits depth text = .ok (.object members))
      (hlast : ∀ name : String, last name = members.lookup name) : ObjectText last text

/-- Within some limits, the text is read as an object in which these members are found. -/
theorem ObjectText.exists_read {last : String → Option Value} {text : List Char}
    (h : ObjectText last text) :
    ∃ (digits depth : Nat) (members : List (String × Value)),
      readWithin digits depth text = .ok (.object members) ∧
        ∀ name : String, members.lookup name = last name := by
  cases h with
  | empty hbefore hgap hbehind hlast =>
      have hobject : ValueText 0 1 (.object []) _ := .inr (.emptyObject hgap)
      refine ⟨0, 1, [], readWithin_of_valueText hobject hbefore hbehind, fun name => ?_⟩
      rw [hlast]
      rfl
  | @written digits depth members _ _ _ _ hmembers hbefore hgap hbehind hlast =>
      have hobject : ValueText digits (depth + 1) (.object (objectOf members)) _ :=
        .inr (.object hgap hmembers)
      refine ⟨digits, depth + 1, _, readWithin_of_valueText hobject hbefore hbehind,
        fun name => ?_⟩
      rw [lookup_objectOf, hlast]
  | read hread hlast => exact ⟨_, _, _, hread, fun name => (hlast name).symm⟩

/-- Members on one line are the text of an object, also if some of them have one name. -/
theorem objectText_compact {digits depth : Nat} {members : List (String × Value)}
    (h : ∀ member ∈ members, IsExact digits depth member.2) :
    ObjectText (fun name => members.reverse.lookup name) (compact (.object members)).toList := by
  have hnone : IsGapText [] := nofun
  rw [compact, compactMembers_eq]
  by_cases hempty : members = []
  · subst hempty
    exact .empty hnone hnone hnone fun _ => rfl
  · have hlist := listText_intercalate isGapText_blank hnone hempty
      fun member hmember => memberText_written (valueText_compact (h member hmember))
    have htext := ObjectText.written hlist hnone hnone hnone fun _ => rfl
    simpa [String.toList_intercalate, Function.comp_def] using htext

/-- An array in an array, so many times, with an empty one innermost. -/
def nested : (count : Nat) → Value
  | 0 => .array []
  | count + 1 => .array [nested count]

theorem isExact_nested (digits count : Nat) : IsExact digits (count + 1) (nested count) := by
  induction count with
  | zero => exact nofun
  | succ count ih =>
      intro item hitem
      rw [List.mem_singleton.mp hitem]
      exact ih

theorem toList_compact_nested (count : Nat) : (compact (nested count)).toList =
    List.replicate (count + 1) '[' ++ List.replicate (count + 1) ']' := by
  induction count with
  | zero => rfl
  | succ count ih =>
      have hitem : (compact (nested (count + 1))).toList =
          '[' :: (compact (nested count)).toList ++ [']'] := by
        simp [nested, compact, compactItems]
      have hclose : List.replicate (count + 2) ']' = List.replicate (count + 1) ']' ++ [']'] :=
        List.replicate_succ'
      rw [hitem, ih, hclose, ← List.append_assoc]
      rfl

end Json

namespace Settings

/-! ### Fields -/

/-- The fields of settings. -/
inductive Field where
  | host
  | port
  | resourcePath
  | dispatchMode
  | maxWorkers
  | staticExtensions
  | maxLiteral
deriving DecidableEq, Repr, Inhabited

/-- The name of a field in a file. -/
def Field.name : Field → String
  | host => "host"
  | port => "port"
  | resourcePath => "resourcePath"
  | dispatchMode => "dispatchMode"
  | maxWorkers => "maxWorkers"
  | staticExtensions => "staticExtensions"
  | maxLiteral => "maxLiteral"

/-- The settings by default, with the chosen fields replaced by those of other settings. -/
def only (settings : Settings) (chosen : Field → Bool) : Settings :=
  let base : Settings := {}
  { host := if chosen .host then settings.host else base.host
    port := if chosen .port then settings.port else base.port
    resourcePath := if chosen .resourcePath then settings.resourcePath else base.resourcePath
    dispatchMode := if chosen .dispatchMode then settings.dispatchMode else base.dispatchMode
    maxWorkers := if chosen .maxWorkers then settings.maxWorkers else base.maxWorkers
    staticExtensions :=
      if chosen .staticExtensions then settings.staticExtensions else base.staticExtensions
    maxLiteral := if chosen .maxLiteral then settings.maxLiteral else base.maxLiteral }

/-- A text is JSON for an object that gives the chosen fields of the settings: the last member with
    the name of such a field has its value, and no member has the name of another field. -/
def Gives (settings : Settings) (chosen : Field → Bool) (text : List Char) : Prop :=
  ∃ last : String → Option Value, Json.ObjectText last text ∧
    ∀ field : Field, last field.name =
      if chosen field then settings.toDocument.member? field.name else none

theorem isUsable_default : IsUsable {} :=
  fault?_eq_none_iff.mp (by decide)

/-- Each field of usable settings may stand among the fields by default. -/
theorem IsUsable.only {settings : Settings} (h : settings.IsUsable) (chosen : Field → Bool) :
    (settings.only chosen).IsUsable := by
  have hbase := isUsable_default
  constructor
  · unfold Settings.only
    cases chosen .port
    · exact hbase.port_low
    · exact h.port_low
  · unfold Settings.only
    cases chosen .port
    · exact hbase.port_high
    · exact h.port_high
  · unfold Settings.only
    cases chosen .maxWorkers
    · exact hbase.workers
    · exact h.workers
  · unfold Settings.only
    cases chosen .maxLiteral
    · exact hbase.literal
    · exact h.literal
  · unfold Settings.only
    cases chosen .staticExtensions
    · exact hbase.extensions
    · exact h.extensions

/-! ### Reading the members -/

/-- A chosen field is read from its member, and another one is as it is by default. -/
theorem memberOr_chosen {α : Type} {document value : Value} {name : String} {default found : α}
    {convert : Value → Except LoadFault α} {chosen : Bool}
    (hmember : document.member? name = if chosen then some value else none)
    (hconvert : convert value = .ok found) :
    memberOr document name default convert = .ok (if chosen then found else default) := by
  cases chosen with
  | false => simp [memberOr, hmember]
  | true => simp [memberOr, hmember, hconvert]

/-- An object that gives the chosen fields is read as the settings with these. -/
theorem ofMembers_only (file : String) {settings : Settings} {chosen : Field → Bool}
    {document : Value} (h : ∀ field : Field, document.member? field.name =
      if chosen field then settings.toDocument.member? field.name else none) :
    ofMembers file document = .ok (settings.only chosen) := by
  have hhost : memberOr document "host" ({} : Settings).host (fun value => .ok value.display) =
      .ok (settings.only chosen).host := memberOr_chosen (h .host) rfl
  have hport : memberOr document "port" ({} : Settings).port (whole file) =
      .ok (settings.only chosen).port := memberOr_chosen (h .port) rfl
  have hpath : memberOr document "resourcePath" ({} : Settings).resourcePath
      (fun value => .ok value.display) = .ok (settings.only chosen).resourcePath :=
    memberOr_chosen (h .resourcePath) rfl
  have hmode : memberOr document "dispatchMode" ({} : Settings).dispatchMode
      (fun value => (DispatchMode.ofName value.display).mapError .refused) =
        .ok (settings.only chosen).dispatchMode := by
    refine memberOr_chosen (h .dispatchMode) ?_
    rw [Value.display, DispatchMode.ofName_name]
    rfl
  have hworkers : memberOr document "maxWorkers" none (optionalWhole file) =
      .ok (settings.only chosen).maxWorkers := by
    obtain ⟨workers, hworkers, hread⟩ := optionalWhole_workers file settings
    exact memberOr_chosen (hworkers ▸ h .maxWorkers) hread
  have hextensions : memberOr document "staticExtensions" ({} : Settings).staticExtensions
      (fun value => value.texts.mapError (.value file)) =
        .ok (settings.only chosen).staticExtensions := by
    refine memberOr_chosen (h .staticExtensions) ?_
    rw [texts_strings]
    rfl
  have hliteral : memberOr document "maxLiteral" ({} : Settings).maxLiteral (whole file) =
      .ok (settings.only chosen).maxLiteral := memberOr_chosen (h .maxLiteral) rfl
  simp only [ofMembers, hhost, hport, hpath, hmode, hworkers, hextensions, hliteral]
  rfl

/-! ### Files -/

/-- A file that gives usable settings has them, whichever way its lines end. -/
theorem Gives.ofBytes {settings : Settings} {chosen : Field → Bool} {text : String}
    (h : settings.Gives chosen text.toList) (husable : settings.IsUsable) {depth : Nat}
    (hwithin : ¬ Json.Exceeds depth (Text.unifyLines text.toList)) (file : String) :
    ofBytes depth file text.toUTF8.toList = .ok (settings.only chosen) := by
  obtain ⟨last, hobject, hlast⟩ := h
  obtain ⟨digits, deep, members, hread, hmembers⟩ := hobject.exists_read
  have hgiven : ofMembers file (.object members) = .ok (settings.only chosen) :=
    ofMembers_only file fun field => (hmembers field.name).trans (hlast field)
  have hvalid : (settings.only chosen).validate = .ok (settings.only chosen) :=
    validate_eq_ok_iff.mpr ⟨rfl, husable.only chosen⟩
  have hunified := Json.readWithin_of_ok (Json.readWithin_unifyLines hread) Text.maxDigits depth
  rcases hunified with hfound | hfault
  · have hfound : Json.read depth (Text.unifyLines text.toList) = .ok (.object members) := hfound
    simp only [Settings.ofBytes, Text.Utf8.decode_toUTF8, hfound, ofDocument, hgiven]
    simp only [bind, Except.bind, hvalid]
    rfl
  · exact absurd hfault hwithin

end Settings

namespace Command

open Settings (Field)

/-- A file beyond the limits of the reader breaks it off. -/
theorem loadSettings_exceeds {depth : Nat} {text : String}
    (hlimit : Json.Exceeds depth (Text.unifyLines text.toList)) {tree : Files.Tree} {path : String}
    (hread : tree.read path = .ok text.toUTF8.toList) :
    ∃ fault : ConfigFault,
      loadSettings depth tree path = .error fault ∧ fault.isReported = false :=
  loadSettings_unreported_iff.mpr
    (.inr ⟨_, hread, .limits (Text.Utf8.decode_toUTF8 text) hlimit⟩)

/-! ### Main result -/

/-- A file that gives some fields of settings that can be used is loaded as the settings by default
    with exactly these fields replaced, whichever fields they are: the order of the members, the
    members with other names, the earlier members with the name of a field, and the way in which
    all of them are written make no difference; unless the text is beyond the limits of the reader,
    which breaks it off without a report. A text with no more opening brackets than may be nested
    and no more digits in a row than a number may have is within the limits. -/
theorem loadSettings_only {settings : Settings} (hvalid : settings.validate = .ok settings)
    {chosen : Field → Bool} {text : String} (hgives : settings.Gives chosen text.toList)
    {depth : Nat} {tree : Files.Tree} {path : String}
    (hread : tree.read path = .ok text.toUTF8.toList) :
    (loadSettings depth tree path = .ok (settings.only chosen) ↔
        ¬ Json.Exceeds depth (Text.unifyLines text.toList)) ∧
      (Json.Exceeds depth (Text.unifyLines text.toList) → ∃ fault : ConfigFault,
        loadSettings depth tree path = .error fault ∧ fault.isReported = false) ∧
      (Json.openings text.toList ≤ depth → Json.longestRun text.toList ≤ Text.maxDigits →
        loadSettings depth tree path = .ok (settings.only chosen)) := by
  have husable := (Settings.validate_eq_ok_iff.mp hvalid).2
  have hgiven (hwithin : ¬ Json.Exceeds depth (Text.unifyLines text.toList)) :
      loadSettings depth tree path = .ok (settings.only chosen) := by
    simp only [loadSettings, hread, hgives.ofBytes husable hwithin path, mapError_ok]
  refine ⟨⟨fun hloaded hlimit => ?_, hgiven⟩, fun hlimit => loadSettings_exceeds hlimit hread,
    fun hfew hshort => hgiven (Json.not_exceeds ?_ ?_)⟩
  · obtain ⟨fault, hfault, _⟩ := loadSettings_exceeds hlimit hread
    rw [hloaded] at hfault
    cases hfault
  · rwa [Json.openings_unifyLines]
  · rwa [Json.longestRun_unifyLines]

/-- A port that is written twice, behind a member that is no field; the bound for literals is not
    written. -/
theorem loadSettings_only_port :
    let text := "\x7b\"x\": [1], \"port\": 1, \"port\": 80\x7d"
    let settings : Settings := { port := 80, maxLiteral := 5 }
    let chosen := fun field : Field => decide (field = .port)
    settings.validate = .ok settings ∧ settings.Gives chosen text.toList ∧
      (withFile text.toUTF8.toList).read "settings.json" = .ok text.toUTF8.toList ∧
      loadSettings 988 (withFile text.toUTF8.toList) "settings.json" = .ok { port := 80 } := by
  intro text settings chosen
  have hvalid : settings.validate = .ok settings := by rfl
  have hgives : settings.Gives chosen text.toList := by
    let members : List (String × Value) :=
      [("x", .array [.whole 1]), ("port", .whole 1), ("port", .whole 80)]
    have hexact : ∀ member ∈ members, Json.IsExact 2 1 member.2 := by simp [members, Json.IsExact]
    refine ⟨_, Json.objectText_compact hexact, fun field => ?_⟩
    cases field <;> rfl
  have hread := read_withFile text.toUTF8.toList
  exact ⟨hvalid, hgives, hread, (loadSettings_only hvalid hgives hread).2.2 (by decide) (by decide)⟩

/-- A port, and behind it a member whose brackets are nested so many times and once more. -/
def portAndNested (count : Nat) : List (String × Value) :=
  [("port", .whole 80), ("x", Json.nested count)]

theorem toList_compact_portAndNested (count : Nat) :
    (Json.compact (.object (portAndNested count))).toList =
      "\x7b\"port\": 80, \"x\": ".toList ++ List.replicate (count + 1) '[' ++
        List.replicate (count + 1) ']' ++ ['\x7d'] := by
  have hport : Json.escapeString "port" ++ ": " ++ Json.scalarText (.whole 80) = "\"port\": 80" :=
    rfl
  have hname : Json.escapeString "x" ++ ": " = "\"x\": " := rfl
  rw [portAndNested, Json.compact]
  simp only [Json.compactMembers, hname]
  rw [Json.compact, hport]
  · simp [Json.toList_compact_nested]
  · rintro items ⟨⟩
  · rintro members ⟨⟩

/-- A file whose brackets are nested deeper than they are read. -/
def deepFile : List Char :=
  "\x7b\"port\": 80, \"x\": ".toList ++ List.replicate 1000 '[' ++ List.replicate 1000 ']' ++
    ['\x7d']

theorem deepFile_gives :
    Settings.Gives { port := 80 } (fun field => decide (field = .port)) deepFile := by
  have hexact : ∀ member ∈ portAndNested 999, Json.IsExact 2 1000 member.2 := by
    refine List.forall_mem_cons.mpr ⟨?_, List.forall_mem_cons.mpr ⟨?_, nofun⟩⟩
    · exact (by decide : (80 : Int).natAbs < 10 ^ 2)
    · exact Json.isExact_nested 2 999
  have hwritten := Json.objectText_compact hexact
  rw [toList_compact_portAndNested 999] at hwritten
  refine ⟨_, hwritten, fun field => ?_⟩
  cases field <;> rfl

theorem deepFile_exceeds : Json.Exceeds 988 (Text.unifyLines deepFile) := by
  decide +kernel

/-- A file that gives a port that can be used is not loaded. -/
theorem loadSettings_deepFile :
    let text := String.ofList deepFile
    let settings : Settings := { port := 80 }
    let chosen := fun field : Field => decide (field = .port)
    settings.validate = .ok settings ∧ settings.Gives chosen text.toList ∧
      (withFile text.toUTF8.toList).read "settings.json" = .ok text.toUTF8.toList ∧
      (∃ fault : ConfigFault, fault.isReported = false ∧
        loadSettings 988 (withFile text.toUTF8.toList) "settings.json" = .error fault) ∧
      loadSettings 988 (withFile text.toUTF8.toList) "settings.json" ≠
        .ok (settings.only chosen) := by
  intro text settings chosen
  have hread := read_withFile text.toUTF8.toList
  have hgives : settings.Gives chosen text.toList := by
    rw [String.toList_ofList]
    exact deepFile_gives
  have hlimit : Json.Exceeds 988 (Text.unifyLines text.toList) := by
    rw [String.toList_ofList]
    exact deepFile_exceeds
  obtain ⟨fault, hfault, hunreported⟩ := loadSettings_exceeds hlimit hread
  refine ⟨by rfl, hgives, hread, ⟨fault, hunreported, hfault⟩, ?_⟩
  rw [hfault]
  exact nofun

end Command

end Abacus
