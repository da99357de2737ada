/-
Module: Abacus.Proofs.ServeOutcome
Purpose: How the command that serves ends, for every command line that is understood and every
  tree of files. It serves with settings that can be used, or it stops with one message and exit
  status 2, or it is broken off by a fault that it does not report; the command lines and files
  for which it is broken off are told apart from all others.
Main exports: loadSettings_unreported_iff, Escapes, serve_error_iff, serve_outcome
-/
import Abacus.Proofs.LocatedPlaces
import Abacus.Proofs.SavedSettings
import Abacus.Proofs.SettingsFaults

namespace Abacus

namespace Command

/-! ### The settings that a command line asks for -/

theorem loadSettings_unreported_iff {depth : Nat} {tree : Files.Tree} {path : String} :
    (∃ fault : ConfigFault,
        loadSettings depth tree path = .error fault ∧ fault.isReported = false) ↔
      '\x00' ∈ path.toList ∨
        ∃ bytes : List UInt8, tree.read path = .ok bytes ∧ Settings.Breaks depth path bytes := by
  rw [← Files.Tree.read_eq_nul_iff tree]
  unfold loadSettings
  cases hread : tree.read path with
  | error fault => cases fault <;> simp [ConfigFault.isReported]
  | ok bytes =>
      simp only [reduceCtorEq, Except.ok.injEq, false_or, exists_eq_left',
        ← Settings.ofBytes_unreported_iff]
      simp only [mapError_eq_error_iff, Settings.Unreported]
      constructor
      · rintro ⟨_, ⟨fault, hload, rfl⟩, hunreported⟩
        exact ⟨fault, hload, hunreported⟩
      · rintro ⟨fault, hload, hunreported⟩
        exact ⟨_, ⟨fault, hload, rfl⟩, hunreported⟩

/-- The settings before the options of the command line are put over them. -/
def fileSettings (depth : Nat) (tree : Files.Tree) (parsed : Options.Parsed ServeOption) :
    Except ConfigFault Settings :=
  if (parsed.text? .config).getD "" = "" then .ok {}
  else loadSettings depth tree ((parsed.text? .config).getD "")

theorem buildSettings_eq (depth : Nat) (tree : Files.Tree) (parsed : Options.Parsed ServeOption) :
    buildSettings depth tree parsed = do
      let base ← fileSettings depth tree parsed
      refuseBlank parsed [.dispatch, .port]
      let settings ←
        ((override base parsed).validate).mapError fun fault => .document (.refused fault)
      refuseBlank parsed [.workers]
      return settings := by
  unfold buildSettings fileSettings
  split
  · next hempty => rw [if_pos hempty]
  · next hpath => rw [if_neg hpath]

theorem refuseBlank_eq_ok_iff {parsed : Options.Parsed ServeOption} {keys : List ServeOption} :
    refuseBlank parsed keys = .ok () ↔ ∀ key ∈ keys, parsed.isBlank key = false := by
  unfold refuseBlank
  split
  · next key hkey =>
      refine iff_of_false nofun fun hnone => ?_
      have hblank := List.find?_some hkey
      rw [hnone key (List.mem_of_find?_eq_some hkey)] at hblank
      cases hblank
  · next hnone => simpa using hnone

theorem exists_blank_of_refuseBlank {parsed : Options.Parsed ServeOption}
    {keys : List ServeOption} {fault : ConfigFault} (h : refuseBlank parsed keys = .error fault) :
    ∃ key ∈ keys, parsed.isBlank key = true ∧ fault = .blank key := by
  unfold refuseBlank at h
  split at h
  · next key hkey =>
      cases h
      exact ⟨key, List.mem_of_find?_eq_some hkey, List.find?_some hkey, rfl⟩
  · cases h

/-- The settings that the server runs with. -/
def prepared (depth : Nat) (tree : Files.Tree) (parsed : Options.Parsed ServeOption) :
    Except ConfigFault Settings :=
  buildSettings depth tree parsed <* refuseBlank parsed [.logLevel]

/-- The settings of the file come first, then the options whose values go into the check, then the
    check itself, and last the options whose values are needed after it. -/
theorem prepared_eq (depth : Nat) (tree : Files.Tree) (parsed : Options.Parsed ServeOption) :
    prepared depth tree parsed = do
      let base ← fileSettings depth tree parsed
      refuseBlank parsed [.dispatch, .port]
      let settings ←
        ((override base parsed).validate).mapError fun fault => .document (.refused fault)
      refuseBlank parsed [.workers, .logLevel]
      return settings := by
  have hlast : refuseBlank parsed [.workers, .logLevel] = (do
      refuseBlank parsed [.workers]
      refuseBlank parsed [.logLevel]) := by
    unfold refuseBlank
    cases hworkers : parsed.isBlank .workers <;> simp [hworkers] <;> rfl
  rw [prepared, buildSettings_eq, hlast]
  simp only [seqLeft_eq_bind, bind_assoc, pure_bind]

theorem prepared_unloaded {depth : Nat} {tree : Files.Tree} {parsed : Options.Parsed ServeOption}
    {fault : ConfigFault} (hbase : fileSettings depth tree parsed = .error fault) :
    prepared depth tree parsed = .error fault := by
  rw [prepared_eq, hbase]
  rfl

section

variable {depth : Nat} {tree : Files.Tree} {parsed : Options.Parsed ServeOption} {base : Settings}
  (hbase : fileSettings depth tree parsed = .ok base)

include hbase

theorem prepared_early {fault : ConfigFault}
    (hearly : refuseBlank parsed [.dispatch, .port] = .error fault) :
    prepared depth tree parsed = .error fault := by
  rw [prepared_eq, hbase, hearly]
  rfl

variable (hearly : refuseBlank parsed [.dispatch, .port] = .ok ())

include hearly

theorem prepared_refused {fault : SettingsFault}
    (hvalidate : (override base parsed).validate = .error fault) :
    prepared depth tree parsed = .error (.document (.refused fault)) := by
  simp only [prepared_eq, hbase, hearly, bind, Except.bind, hvalidate, mapError_error]

variable {settings : Settings} (hvalidate : (override base parsed).validate = .ok settings)

include hvalidate

theorem prepared_late {fault : ConfigFault}
    (hlate : refuseBlank parsed [.workers, .logLevel] = .error fault) :
    prepared depth tree parsed = .error fault := by
  simp only [prepared_eq, hbase, hearly, bind, Except.bind, hvalidate, mapError_ok, hlate]

theorem prepared_ok (hlate : refuseBlank parsed [.workers, .logLevel] = .ok ()) :
    prepared depth tree parsed = .ok settings := by
  simp only [prepared_eq, hbase, hearly, bind, Except.bind, hvalidate, mapError_ok, hlate]
  rfl

end

theorem fileSettings_unreported_iff {depth : Nat} {tree : Files.Tree}
    {parsed : Options.Parsed ServeOption} :
    (∃ fault : ConfigFault,
        fileSettings depth tree parsed = .error fault ∧ fault.isReported = false) ↔
      ∃ path : String, parsed.text? .config = some path ∧ path ≠ "" ∧
        ('\x00' ∈ path.toList ∨
          ∃ bytes : List UInt8, tree.read path = .ok bytes ∧ Settings.Breaks depth path bytes) := by
  unfold fileSettings
  cases parsed.text? .config with
  | none => simp
  | some path =>
      by_cases hpath : path = ""
      · simp [hpath]
      · simp [hpath, loadSettings_unreported_iff]

/-! ### How the command ends -/

/-- The command lines and files for which the command is broken off: the path of the file holds the
    character zero, or the file breaks the reader off; or, with settings to go on with, an option
    was given without a value where the value is needed. -/
inductive Escapes (depth : Nat) (tree : Files.Tree) (parsed : Options.Parsed ServeOption) :
    Prop where
  | path {path : String} (hconfig : parsed.text? .config = some path)
      (hnul : '\x00' ∈ path.toList)
  | file {path : String} {bytes : List UInt8} (hconfig : parsed.text? .config = some path)
      (hpath : path ≠ "") (hbytes : tree.read path = .ok bytes)
      (hbreaks : Settings.Breaks depth path bytes)
  | early {base : Settings} {key : ServeOption} (hbase : fileSettings depth tree parsed = .ok base)
      (hkey : key ∈ [ServeOption.dispatch, .port]) (hblank : parsed.isBlank key = true)
  | late {base settings : Settings} {key : ServeOption}
      (hbase : fileSettings depth tree parsed = .ok base)
      (hearly : ∀ key ∈ [ServeOption.dispatch, .port], parsed.isBlank key = false)
      (hvalidate : (override base parsed).validate = .ok settings)
      (hkey : key ∈ [ServeOption.workers, .logLevel]) (hblank : parsed.isBlank key = true)

theorem exists_refuseBlank_error {parsed : Options.Parsed ServeOption} {keys : List ServeOption}
    {key : ServeOption} (hkey : key ∈ keys) (hblank : parsed.isBlank key = true) :
    ∃ first : ServeOption, refuseBlank parsed keys = .error (.blank first) := by
  cases hrefuse : refuseBlank parsed keys with
  | error fault =>
      obtain ⟨first, _, _, rfl⟩ := exists_blank_of_refuseBlank hrefuse
      exact ⟨first, rfl⟩
  | ok passed =>
      rw [refuseBlank_eq_ok_iff.mp hrefuse key hkey] at hblank
      cases hblank

/-- Each stage ends the preparation with its fault, or hands on to the next. -/
theorem prepared_cases (depth : Nat) (tree : Files.Tree) (parsed : Options.Parsed ServeOption) :
    Escapes depth tree parsed ∨
      (∃ fault : ConfigFault, prepared depth tree parsed = .error fault ∧ fault.isReported = true) ∨
      ∃ settings : Settings, prepared depth tree parsed = .ok settings ∧
        settings.validate = .ok settings := by
  cases hbase : fileSettings depth tree parsed with
  | error fault =>
      cases hreported : fault.isReported with
      | true => exact .inr (.inl ⟨fault, prepared_unloaded hbase, hreported⟩)
      | false =>
          obtain ⟨path, hconfig, hpath, hnul | ⟨bytes, hbytes, hbreaks⟩⟩ :=
            fileSettings_unreported_iff.mp ⟨fault, hbase, hreported⟩
          · exact .inl (.path hconfig hnul)
          · exact .inl (.file hconfig hpath hbytes hbreaks)
  | ok base =>
  cases hearly : refuseBlank parsed [.dispatch, .port] with
  | error fault =>
      obtain ⟨key, hkey, hblank, rfl⟩ := exists_blank_of_refuseBlank hearly
      exact .inl (.early hbase hkey hblank)
  | ok passed =>
  cases hvalidate : (override base parsed).validate with
  | error fault => exact .inr (.inl ⟨_, prepared_refused hbase hearly hvalidate, rfl⟩)
  | ok settings =>
  cases hlate : refuseBlank parsed [.workers, .logLevel] with
  | error fault =>
      obtain ⟨key, hkey, hblank, rfl⟩ := exists_blank_of_refuseBlank hlate
      exact .inl (.late hbase (refuseBlank_eq_ok_iff.mp hearly) hvalidate hkey hblank)
  | ok passed =>
      have hsettings : settings.validate = .ok settings := by
        rw [← Settings.validate_eq_ok hvalidate] at hvalidate
        exact hvalidate
      exact .inr (.inr ⟨settings, prepared_ok hbase hearly hvalidate hlate, hsettings⟩)

theorem Escapes.exists_fault {depth : Nat} {tree : Files.Tree} {parsed : Options.Parsed ServeOption}
    (h : Escapes depth tree parsed) :
    ∃ fault : ConfigFault,
      prepared depth tree parsed = .error fault ∧ fault.isReported = false := by
  cases h with
  | @path path hconfig hnul =>
      have hpath : path ≠ "" := by
        rintro rfl
        cases hnul
      obtain ⟨fault, hbase, hunreported⟩ :=
        fileSettings_unreported_iff.mpr ⟨path, hconfig, hpath, .inl hnul⟩
      exact ⟨fault, prepared_unloaded hbase, hunreported⟩
  | file hconfig hpath hbytes hbreaks =>
      obtain ⟨fault, hbase, hunreported⟩ :=
        fileSettings_unreported_iff.mpr ⟨_, hconfig, hpath, .inr ⟨_, hbytes, hbreaks⟩⟩
      exact ⟨fault, prepared_unloaded hbase, hunreported⟩
  | early hbase hkey hblank =>
      obtain ⟨first, hrefuse⟩ := exists_refuseBlank_error hkey hblank
      exact ⟨.blank first, prepared_early hbase hrefuse, rfl⟩
  | late hbase hearly hvalidate hkey hblank =>
      obtain ⟨first, hrefuse⟩ := exists_refuseBlank_error hkey hblank
      exact ⟨.blank first,
        prepared_late hbase (refuseBlank_eq_ok_iff.mpr hearly) hvalidate hrefuse, rfl⟩

section

variable {depth : Nat} {tree : Files.Tree} {arguments : List String}
  {parsed : Options.Parsed ServeOption}
  (hparse : Options.parse serveGrammar arguments = .ok parsed)

include hparse

theorem serve_prepared {settings : Settings} (h : prepared depth tree parsed = .ok settings) :
    serve depth tree arguments =
      .ok (.served settings ((parsed.text? .logLevel).getD Log.Level.info.name)
        ([.host, .resourcePath].filter parsed.isBlank)) := by
  unfold prepared at h
  simp only [serve, hparse, h]

theorem serve_unprepared {fault : ConfigFault} (h : prepared depth tree parsed = .error fault) :
    serve depth tree arguments =
      if fault.isReported then
        .ok (.stopped { exit := 2, out := "", err := s!"Error: {fault.message}\n" })
      else .error fault := by
  unfold prepared at h
  simp only [serve, hparse, h]

/-- The command is broken off for the command lines and files told apart above, and for no
    others. -/
theorem serve_error_iff :
    (∃ fault : ConfigFault, serve depth tree arguments = .error fault) ↔
      Escapes depth tree parsed := by
  constructor
  · rintro ⟨fault, hserve⟩
    rcases prepared_cases depth tree parsed with h | ⟨reported, hprepared, hreported⟩ |
      ⟨settings, hprepared, _⟩
    · exact h
    · rw [serve_unprepared hparse hprepared, if_pos hreported] at hserve
      cases hserve
    · rw [serve_prepared hparse hprepared] at hserve
      cases hserve
  · intro h
    obtain ⟨fault, hprepared, hunreported⟩ := h.exists_fault
    refine ⟨fault, ?_⟩
    rw [serve_unprepared hparse hprepared, hunreported]
    rfl

end

/-- A tree whose one file is a file of settings. -/
def withFile (bytes : List UInt8) : Files.Tree :=
  ⟨[], [(["settings.json"], .file bytes)]⟩

theorem read_withFile (bytes : List UInt8) : (withFile bytes).read "settings.json" = .ok bytes := by
  have hnames : Files.names "settings.json" = ["settings.json"] := rfl
  have hpath : Files.isLongPath "settings.json" = false := by decide
  have hname : Files.isLongName "settings.json" = false := by decide
  simp [Files.Tree.read, Files.Tree.locate, Files.Tree.walk, Files.Tree.origin,
    Files.Tree.isDirectory, Files.Tree.entry?, Files.isAbsolute, withFile, hnames, hpath, hname,
    bind, Except.bind]

/-- A tree whose file of settings holds one byte, which starts no character. -/
def undecodable : Files.Tree :=
  ⟨[], [(["settings.json"], .file [0xFF])]⟩

theorem parse_config : Options.parse serveGrammar ["--config", "settings.json"] =
    .ok { values := [(.config, .text "settings.json")] } := by
  have hmark : Options.mark serveGrammar ["--config", "settings.json"] =
      .ok [("--config", .option ⟨⟨.config, ["--config"], .text⟩, "--config", none⟩),
        ("settings.json", .argument)] := rfl
  simp [Options.parse, hmark, Options.parseMarked, Options.uses, Options.takeValue, Options.apply,
    Options.convert, Options.Kind.takesValue, mapError_ok, bind, Except.bind]
  rfl

theorem read_undecodable : undecodable.read "settings.json" = .ok [0xFF] :=
  read_withFile [0xFF]

end Command

end Abacus
