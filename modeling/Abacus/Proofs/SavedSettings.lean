/-
Module: Abacus.Proofs.SavedSettings
Purpose: Settings that are saved in a file and loaded again. What is loaded is what was saved, of
  every text, number and list of texts, as far as settings with these values can be used; if they
  cannot, the file is refused with the fault that the settings have. Settings with a number of too
  many digits are not saved.
Main exports: ofName_name, ofMembers_toDocument, isExact_toDocument,
  Settings.savedBytes?, Settings.ofBytes_savedBytes, Settings.loaded_savedBytes
-/
import Abacus.Proofs.EncodedText
import Abacus.Proofs.JsonWriting
import Abacus.Proofs.TextLines
import Abacus.Settings.Document

namespace Abacus

open Json (Value)

/-! ### The values of the document -/

theorem lower_name (mode : DispatchMode) : Text.lower mode.name = mode.name := by
  cases mode <;> rfl

/-- The name of a way to dispatch stands for it. -/
theorem DispatchMode.ofName_name (mode : DispatchMode) : ofName mode.name = .ok mode := by
  have hplain : (Text.lower mode.name).map (fun c => if c = '-' then '_' else c) = mode.name := by
    rw [lower_name]
    refine String.toList_inj.mp ?_
    rw [String.toList_map]
    cases mode <;> rfl
  rw [ofName, hplain]
  cases mode <;> rfl

/-- The texts of an array of strings are the strings. -/
theorem texts_strings (texts : List String) :
    (Value.array (texts.map .string)).texts = .ok texts := by
  simp [Value.texts, Value.display, Function.comp_def]

namespace Settings

/-- The document has a number of workers, or null for none, and either is read as it is meant. -/
theorem optionalWhole_workers (file : String) (settings : Settings) :
    ∃ value : Value, settings.toDocument.member? "maxWorkers" = some value ∧
      optionalWhole file value = .ok settings.maxWorkers := by
  obtain ⟨host, port, resourcePath, mode, workers, extensions, literal⟩ := settings
  cases workers with
  | none => exact ⟨.null, rfl, rfl⟩
  | some n => exact ⟨.whole n, rfl, rfl⟩

/-- Each setting is found in the document under the name that it is looked for, and no default is
    taken. -/
theorem ofMembers_toDocument (file : String) (settings : Settings) :
    ofMembers file settings.toDocument = .ok settings := by
  have hhost : settings.toDocument.member? "host" = some (.string settings.host) := rfl
  have hport : settings.toDocument.member? "port" = some (.whole settings.port) := rfl
  have hpath : settings.toDocument.member? "resourcePath" =
      some (.string settings.resourcePath) := rfl
  have hmode : settings.toDocument.member? "dispatchMode" =
      some (.string settings.dispatchMode.name) := rfl
  have hextensions : settings.toDocument.member? "staticExtensions" =
      some (.array (settings.staticExtensions.map .string)) := rfl
  have hliteral : settings.toDocument.member? "maxLiteral" =
      some (.whole settings.maxLiteral) := rfl
  have hname : (Value.string settings.dispatchMode.name).display = settings.dispatchMode.name :=
    rfl
  obtain ⟨workers, hworkers, hread⟩ := optionalWhole_workers file settings
  simp only [ofMembers, memberOr, hhost, hport, hpath, hmode, hworkers, hextensions, hliteral,
    hname, hread, DispatchMode.ofName_name, texts_strings]
  rfl

/-! ### Settings that can be saved -/

/-- The numbers of settings. -/
def numbers (settings : Settings) : List Int :=
  settings.port :: settings.maxLiteral :: settings.maxWorkers.toList

theorem areWritable_strings (texts : List String) :
    Json.areWritable (texts.map .string) = true := by
  induction texts with
  | nil => rfl
  | cons text texts ih => simpa [Json.areWritable, Json.isWritable] using ih

/-- The document can be written exactly if the numbers of the settings can be. -/
theorem isWritable_toDocument_iff (settings : Settings) :
    Json.isWritable settings.toDocument = true ↔
      ∀ n ∈ settings.numbers, Text.IsWritable n := by
  cases hworkers : settings.maxWorkers <;>
    simp only [toDocument, numbers, hworkers, Json.isWritable, Json.membersWritable,
      areWritable_strings, Option.toList_none, Option.toList_some, List.forall_mem_cons,
      List.not_mem_nil, Bool.and_eq_true, decide_eq_true_eq, true_and, false_imp_iff,
      implies_true, and_comm, and_left_comm]

/-- The document is written exactly: it holds strings, whole numbers and null, its names are seven
    different ones, and brackets are nested two deep. -/
theorem isExact_toDocument (depth : Nat) {settings : Settings}
    (hshort : ∀ n ∈ settings.numbers, Text.IsWritable n) :
    Json.IsExact Text.maxDigits (depth + 2) settings.toDocument := by
  have hnames : ["host", "port", "resourcePath", "dispatchMode", "maxWorkers", "staticExtensions",
      "maxLiteral"].Nodup := by decide
  obtain ⟨hport, hliteral, hworkers⟩ :
      Text.IsWritable settings.port ∧ Text.IsWritable settings.maxLiteral ∧
        ∀ n ∈ settings.maxWorkers.toList, Text.IsWritable n := by
    simpa [numbers] using hshort
  refine ⟨hnames, fun member hmember => ?_⟩
  simp only [List.mem_cons, List.not_mem_nil, or_false] at hmember
  rcases hmember with rfl | rfl | rfl | rfl | rfl | rfl | rfl
  · trivial
  · exact Json.isWritable_iff_lt_pow.mp hport
  · trivial
  · trivial
  · cases hvalue : settings.maxWorkers with
    | none => trivial
    | some n => exact Json.isWritable_iff_lt_pow.mp (hworkers n (by simp [hvalue]))
  · intro item hitem
    obtain ⟨text, _, rfl⟩ := List.mem_map.mp hitem
    cases depth <;> trivial
  · exact Json.isWritable_iff_lt_pow.mp hliteral

/-! ### The file -/

/-- The bytes of the file that settings are saved in, if their numbers can be written. -/
def savedBytes? (settings : Settings) : Option (List UInt8) :=
  settings.toText?.map fun text => text.toUTF8.toList

/-- What is saved is the text of settings whose numbers can be written. -/
theorem savedBytes?_eq_some {settings : Settings} {bytes : List UInt8}
    (h : settings.savedBytes? = some bytes) :
    (∀ n ∈ settings.numbers, Text.IsWritable n) ∧
      bytes = (Json.indented settings.toDocument).toUTF8.toList := by
  obtain ⟨text, htext, rfl⟩ := Option.map_eq_some_iff.mp h
  unfold toText? Json.indented? at htext
  split at htext
  · next hwritable =>
      cases htext
      exact ⟨settings.isWritable_toDocument_iff.mp hwritable, rfl⟩
  · cases htext

/-- Settings that cannot be saved have a number with too many digits. -/
theorem savedBytes?_eq_none {settings : Settings} (h : settings.savedBytes? = none) :
    ∃ n ∈ settings.numbers, ¬ Text.IsWritable n := by
  by_contra hshort
  simp only [not_exists, not_and, Classical.not_not] at hshort
  rw [savedBytes?, toText?, Json.indented?,
    if_pos (settings.isWritable_toDocument_iff.mpr hshort)] at h
  cases h

/-- The text is made of printable ASCII and line feeds, so reading changes none of its lines. -/
theorem unifyLines_indented {settings : Settings}
    (hshort : ∀ n ∈ settings.numbers, Text.IsWritable n) :
    Text.unifyLines (Json.indented settings.toDocument).toList =
      (Json.indented settings.toDocument).toList := by
  refine Text.unifyLines_of_not_mem fun hmem => ?_
  have hwritten : Json.isWritten '\r' = true :=
    List.all_eq_true.mp (Json.allWritten_indentedAt (isExact_toDocument 0 hshort) 0) '\r' hmem
  cases hwritten

/-- Loading saved settings is checking them. -/
theorem ofBytes_savedBytes (depth : Nat) (file : String) {settings : Settings}
    {bytes : List UInt8} (h : settings.savedBytes? = some bytes) :
    ofBytes (depth + 2) file bytes = settings.validate.mapError .refused := by
  obtain ⟨hshort, rfl⟩ := savedBytes?_eq_some h
  have hread : Json.read (depth + 2) (Json.indented settings.toDocument).toList =
      .ok settings.toDocument :=
    Json.readWithin_indented (isExact_toDocument depth hshort)
  simp only [ofBytes, Text.Utf8.decode_toUTF8, unifyLines_indented hshort, hread]
  have hdocument : ofDocument file settings.toDocument =
      ofMembers file settings.toDocument >>= fun read => read.validate.mapError .refused := rfl
  rw [hdocument, ofMembers_toDocument]
  rfl

theorem validate_eq_ok {settings accepted : Settings} (h : settings.validate = .ok accepted) :
    accepted = settings := by
  unfold validate at h
  cases hfault : settings.fault? with
  | none =>
      rw [hfault] at h
      cases h
      rfl
  | some fault =>
      rw [hfault] at h
      cases h

/-- Settings that can be used are loaded from their file as they were saved, and saving these
    writes the same text. The file of settings that cannot be used is refused, with the message
    that the settings are refused with. All settings are saved in a file unless one of their numbers
    has too many digits to be written; and brackets need not be nested deeper than two to read
    it. -/
theorem loaded_savedBytes (depth : Nat) (file : String) (settings : Settings) :
    match settings.savedBytes? with
    | none => ∃ n ∈ settings.numbers, ¬ Text.IsWritable n
    | some bytes =>
        (settings.validate = .ok settings ∧
          ∃ loaded : Settings, ofBytes (depth + 2) file bytes = .ok loaded ∧
            loaded = settings ∧ loaded.toText? = settings.toText?) ∨
        ∃ fault : SettingsFault, settings.validate = .error fault ∧
          ∃ refusal : LoadFault, ofBytes (depth + 2) file bytes = .error refusal ∧
            refusal = .refused fault ∧ refusal.message = fault.message := by
  split
  · next hnone => exact savedBytes?_eq_none hnone
  · next bytes hbytes =>
      rw [ofBytes_savedBytes depth file hbytes]
      cases hvalidate : settings.validate with
      | ok accepted =>
          cases validate_eq_ok hvalidate
          exact .inl ⟨rfl, settings, rfl, rfl, rfl⟩
      | error fault => exact .inr ⟨fault, rfl, .refused fault, rfl, rfl, rfl⟩

end Settings

end Abacus
