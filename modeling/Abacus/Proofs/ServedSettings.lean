/-
Module: Abacus.Proofs.ServedSettings
Purpose: The settings that the command serves with. Each field has the value of its option if that
  was given, and otherwise the value that the file leaves it, or that it has by default without a
  file; two fields have no options. The fields together pass all checks, whatever the file and the
  options contribute. If the file cannot be loaded, that is what happens, whatever the options are.
Main exports: optionKind, parse_written, Settled, Overrides, prepared_eq_ok_iff, served_settings
-/
import Abacus.Proofs.CommandInputs
import Abacus.Proofs.OptionValues
import Abacus.Proofs.ServeOutcome

namespace Abacus.Command

/-! ### Options and their values -/

/-- What the options take. -/
def optionKind : ServeOption → Options.Kind
  | .help => .help
  | .config | .host | .resourcePath => .text
  | .port | .workers => .whole
  | .dispatch => .choice [DispatchMode.pool.name, DispatchMode.thread.name]
  | .logLevel => .choice (logLevels.map Log.Level.name)

/-- The name of an option with two hyphens. -/
def optionName : ServeOption → String
  | .help => "--help"
  | .config => "--config"
  | .host => "--host"
  | .port => "--port"
  | .resourcePath => "--resource-path"
  | .dispatch => "--dispatch"
  | .workers => "--workers"
  | .logLevel => "--log-level"

/-- The text that a value is given by. -/
def valueText : Options.Value → String
  | .text s => s
  | .whole n => toString n
  | .present | .blank => ""

/-- The argument that gives a value to an option. -/
def writtenOption (entry : ServeOption × Options.Value) : String :=
  optionName entry.1 ++ "=" ++ valueText entry.2

/-- An option and a value that it can be given: one of its kind, but not the separator. -/
def CanBeGiven (entry : ServeOption × Options.Value) : Prop :=
  (optionKind entry.1).Allows entry.2 ∧ entry.2 ≠ .blank ∧ entry.2 ≠ .text "--"

/-- The option as the grammar has it, with the text of a value. -/
def attachedOption (entry : ServeOption × Options.Value) : Options.Attached ServeOption :=
  ⟨⟨entry.1, [optionName entry.1], optionKind entry.1⟩, optionName entry.1, valueText entry.2⟩

theorem gives_attachedOption {entry : ServeOption × Options.Value} (h : CanBeGiven entry) :
    (attachedOption entry).Gives serveGrammar entry.2 := by
  obtain ⟨key, value⟩ := entry
  obtain ⟨hallows, hfilled, htext⟩ := h
  have hhelp : key ≠ .help := by
    rintro rfl
    cases value <;> cases hallows
  have hknown : serveGrammar.find? (optionName key) = some (attachedOption (key, value)).opt := by
    cases key with
    | help => exact absurd rfl hhelp
    | config | host | port | resourcePath | dispatch | workers | logLevel => rfl
  have hlong : (optionName key).toList.take 2 = ['-', '-'] := by
    cases key <;> rfl
  have htakes : (optionKind key).takesValue = true := by
    cases key with
    | help => exact absurd rfl hhelp
    | config | host | port | resourcePath | dispatch | workers | logLevel => rfl
  refine ⟨hknown, hlong, htakes, ?_, ?_⟩
  · cases value with
    | text s => exact fun hsame => htext (congrArg Options.Value.text hsame)
    | whole n => exact toString_ne_separator n
    | present | blank => exact (by decide : "" ≠ "--")
  · cases key with
    | help => exact absurd rfl hhelp
    | config | host | resourcePath =>
        cases value with
        | text s => rfl
        | blank => exact absurd rfl hfilled
        | present | whole => cases hallows
    | port | workers =>
        cases value with
        | whole n =>
            have hwritable : Text.IsWritable n := hallows
            simp only [Options.convert, attachedOption, optionKind, valueText,
              Text.readWhole?_toString hwritable]
        | blank => exact absurd rfl hfilled
        | present | text => cases hallows
    | dispatch | logLevel =>
        cases value with
        | text s => exact if_pos hallows
        | blank => exact absurd rfl hfilled
        | present | whole => cases hallows

/-- Whatever values of their kinds the options are to have, in whatever order and however often,
    there is a command line that gives them. -/
theorem parse_written {given : List (ServeOption × Options.Value)}
    (h : ∀ entry ∈ given, CanBeGiven entry) :
    Options.parse serveGrammar (given.map writtenOption) = .ok { values := given.reverse } := by
  have hplain : ∀ entry ∈ serveGrammar.names, '=' ∉ entry.1.toList := by decide
  have hall : ∀ entry ∈ given.map fun entry => (attachedOption entry, entry.2),
      entry.1.Gives serveGrammar entry.2 := by
    intro entry hentry
    obtain ⟨each, heach, rfl⟩ := List.mem_map.mp hentry
    exact gives_attachedOption (h each heach)
  have hvalues : (given.map fun entry => (attachedOption entry, entry.2)).map
      (fun entry => (entry.1.opt.key, entry.2)) = given := by
    rw [List.map_map]
    exact List.map_id given
  have hparse := Options.parse_attached hall hplain
  rw [hvalues, List.map_map] at hparse
  exact hparse

theorem allows_of_parse {arguments : List String} {parsed : Options.Parsed ServeOption}
    (hparse : Options.parse serveGrammar arguments = .ok parsed) {key : ServeOption}
    {value : Options.Value} (hvalue : parsed.value? key = some value) :
    (optionKind key).Allows value := by
  have hkinds : ∀ opt ∈ serveGrammar.options, opt.kind = optionKind opt.key := by decide
  obtain ⟨opt, hopt, rfl, hallows⟩ := (Options.fits_of_parse hparse).of_value? hvalue
  rw [← hkinds opt hopt]
  exact hallows

/-! ### From an option to its setting -/

/-- The text that a value is. -/
def textOf? : Options.Value → Option String
  | .text s => some s
  | _ => none

/-- The number that a value is. -/
def wholeOf? : Options.Value → Option Int
  | .whole n => some n
  | _ => none

/-- The way to dispatch that a value names. -/
def modeOf? : Options.Value → Option DispatchMode
  | .text name => (DispatchMode.ofName name).toOption
  | _ => none

/-- How a setting results from its option. It is kept if the option was not given, and it is the
    value of the option if it was. An option that was given without a value leaves the setting
    without one. -/
inductive Settled {α : Type} (read : Options.Value → Option α) (before : α) :
    Option Options.Value → Option α → Prop where
  | kept : Settled read before none (some before)
  | given {value : Options.Value} {a : α} (h : read value = some a) :
      Settled read before (some value) (some a)
  | blank : Settled read before (some .blank) none

/-- The value of a setting, unless its option left it without one. -/
def settingOf {α : Type} (blank : List ServeOption) (key : ServeOption) (value : α) : Option α :=
  if key ∈ blank then none else some value

/-- Settings are those that were there before, with the values of options over them. -/
structure Overrides (parsed : Options.Parsed ServeOption) (before settings : Settings)
    (blank : List ServeOption) : Prop where
  host : Settled textOf? before.host (parsed.value? .host) (settingOf blank .host settings.host)
  port : Settled wholeOf? before.port (parsed.value? .port) (some settings.port)
  resourcePath : Settled textOf? before.resourcePath (parsed.value? .resourcePath)
    (settingOf blank .resourcePath settings.resourcePath)
  dispatchMode :
    Settled modeOf? before.dispatchMode (parsed.value? .dispatch) (some settings.dispatchMode)
  maxWorkers : Settled (fun value => (wholeOf? value).map some) before.maxWorkers
    (parsed.value? .workers) (some settings.maxWorkers)
  staticExtensions : settings.staticExtensions = before.staticExtensions
  maxLiteral : settings.maxLiteral = before.maxLiteral

/-- The options whose values are needed before the server runs. -/
def neededOptions : List ServeOption :=
  [.dispatch, .port, .workers, .logLevel]

section

variable {arguments : List String} {parsed : Options.Parsed ServeOption}
  (hparse : Options.parse serveGrammar arguments = .ok parsed) {key : ServeOption}

include hparse

theorem settled_text (hkind : optionKind key = .text) (before : String) {blank : List ServeOption}
    (hblank : key ∈ blank ↔ parsed.isBlank key = true) :
    Settled textOf? before (parsed.value? key)
      (settingOf blank key ((parsed.text? key).getD before)) := by
  unfold Options.Parsed.isBlank at hblank
  unfold settingOf Options.Parsed.text?
  cases hvalue : parsed.value? key with
  | none =>
      rw [hvalue] at hblank
      rw [if_neg fun hmem => by cases hblank.mp hmem]
      exact .kept
  | some value =>
      have hallows := allows_of_parse hparse hvalue
      rw [hvalue] at hblank
      rw [hkind] at hallows
      cases value with
      | text s =>
          rw [if_neg fun hmem => by cases hblank.mp hmem]
          exact .given rfl
      | blank =>
          rw [if_pos (hblank.mpr rfl)]
          exact .blank
      | present | whole => cases hallows

theorem settled_whole {α : Type} (f : Int → α) (hkind : optionKind key = .whole) (before : α)
    (hfilled : parsed.isBlank key = false) :
    Settled (fun value => (wholeOf? value).map f) before (parsed.value? key)
      (some (((parsed.whole? key).map f).getD before)) := by
  unfold Options.Parsed.isBlank at hfilled
  unfold Options.Parsed.whole?
  cases hvalue : parsed.value? key with
  | none => exact .kept
  | some value =>
      have hallows := allows_of_parse hparse hvalue
      rw [hvalue] at hfilled
      rw [hkind] at hallows
      cases value with
      | whole n => exact .given rfl
      | blank => cases hfilled
      | present | text => cases hallows

/-- The options of a command line go over the settings that were there before. -/
theorem overrides_override (before : Settings)
    (hfilled : ∀ key ∈ neededOptions, parsed.isBlank key = false) :
    Overrides parsed before (override before parsed)
      ([.host, .resourcePath].filter parsed.isBlank) where
  host := by
    apply settled_text hparse rfl
    simp
  port := by
    have hport : (override before parsed).port =
        ((parsed.whole? .port).map id).getD before.port := by
      rw [Option.map_id_fun]
      rfl
    have hread : wholeOf? = fun value => (wholeOf? value).map id := by
      simp only [Option.map_id_fun, id_eq]
    rw [hport, hread]
    apply settled_whole hparse id rfl
    exact hfilled .port (by decide)
  resourcePath := by
    apply settled_text hparse rfl
    simp
  dispatchMode := by
    have hfilled := hfilled .dispatch (by decide)
    unfold Options.Parsed.isBlank at hfilled
    unfold override Options.Parsed.text?
    cases hvalue : parsed.value? .dispatch with
    | none => exact .kept
    | some value =>
        have hallows := allows_of_parse hparse hvalue
        rw [hvalue] at hfilled
        cases value with
        | text name =>
            apply Settled.given
            simp only [optionKind, Options.Kind.Allows, List.mem_cons, List.not_mem_nil,
              or_false] at hallows
            rcases hallows with rfl | rfl
            · rw [modeOf?, DispatchMode.ofName_name]
              rfl
            · rw [modeOf?, DispatchMode.ofName_name]
              rfl
        | blank => cases hfilled
        | present | whole => cases hallows
  maxWorkers := by
    have hworkers : (override before parsed).maxWorkers =
        ((parsed.whole? .workers).map some).getD before.maxWorkers := by
      unfold override
      cases parsed.whole? .workers <;> rfl
    rw [hworkers]
    apply settled_whole hparse some rfl
    exact hfilled .workers (by decide)
  staticExtensions := rfl
  maxLiteral := rfl

end

/-! ### Preparing and serving -/

/-- The server is prepared exactly if there are settings to start from, each option that is needed
    has a value, and the settings with the values of the options over them can be used. -/
theorem prepared_eq_ok_iff {depth : Nat} {tree : Files.Tree} {parsed : Options.Parsed ServeOption}
    {settings : Settings} :
    prepared depth tree parsed = .ok settings ↔
      ∃ before : Settings, fileSettings depth tree parsed = .ok before ∧
        (∀ key ∈ neededOptions, parsed.isBlank key = false) ∧
        override before parsed = settings ∧ settings.IsUsable := by
  have hneeded : neededOptions = [.dispatch, .port] ++ [.workers, .logLevel] := rfl
  rw [hneeded]
  constructor
  · intro hprepared
    cases hbefore : fileSettings depth tree parsed with
    | error fault =>
        rw [prepared_unloaded hbefore] at hprepared
        cases hprepared
    | ok before =>
    cases hearly : refuseBlank parsed [.dispatch, .port] with
    | error fault =>
        rw [prepared_early hbefore hearly] at hprepared
        cases hprepared
    | ok passed =>
    cases hvalidate : (override before parsed).validate with
    | error fault =>
        rw [prepared_refused hbefore hearly hvalidate] at hprepared
        cases hprepared
    | ok accepted =>
    cases hlate : refuseBlank parsed [.workers, .logLevel] with
    | error fault =>
        rw [prepared_late hbefore hearly hvalidate hlate] at hprepared
        cases hprepared
    | ok passed =>
        rw [prepared_ok hbefore hearly hvalidate hlate] at hprepared
        cases hprepared
        obtain ⟨rfl, husable⟩ := Settings.validate_eq_ok_iff.mp hvalidate
        refine ⟨before, rfl, ?_, rfl, husable⟩
        intro key hkey
        rcases List.mem_append.mp hkey with hfirst | hlast
        · exact refuseBlank_eq_ok_iff.mp hearly key hfirst
        · exact refuseBlank_eq_ok_iff.mp hlate key hlast
  · rintro ⟨before, hbefore, hfilled, rfl, husable⟩
    apply prepared_ok hbefore
    · apply refuseBlank_eq_ok_iff.mpr
      intro key hkey
      exact hfilled key (List.mem_append_left _ hkey)
    · exact Settings.validate_eq_ok_iff.mpr ⟨rfl, husable⟩
    · apply refuseBlank_eq_ok_iff.mpr
      intro key hkey
      exact hfilled key (List.mem_append_right _ hkey)

theorem serve_eq_served_iff {depth : Nat} {tree : Files.Tree} {arguments : List String}
    {parsed : Options.Parsed ServeOption}
    (hparse : Options.parse serveGrammar arguments = .ok parsed) {settings : Settings}
    {level : String} {blank : List ServeOption} :
    serve depth tree arguments = .ok (.served settings level blank) ↔
      prepared depth tree parsed = .ok settings ∧
        (parsed.text? .logLevel).getD Log.Level.info.name = level ∧
        [.host, .resourcePath].filter parsed.isBlank = blank := by
  cases hprepared : prepared depth tree parsed with
  | ok found =>
      rw [serve_prepared hparse hprepared]
      simp
  | error fault =>
      rw [serve_unprepared hparse hprepared]
      split <;> simp

/-! ### Main result -/

/-- How the command ends for a fault: with the message and exit status 2, or broken off. -/
def ending (fault : ConfigFault) : Except ConfigFault ServeOutcome :=
  if fault.isReported then
    .ok (.stopped { exit := 2, out := "", err := s!"Error: {fault.message}\n" })
  else .error fault

/-- Every combination of values that the options can be given can be asked for. Let a command line
    be understood. Whenever the command serves, the settings pass all checks, and there are settings
    to start from, those of the file or those by default, such that each field is that of its option
    if it was given, and what it was before otherwise. It serves exactly if there are settings to
    start from, the options that are needed have values, and the settings with these pass the
    checks. If the file cannot be loaded, the command ends with its fault, whatever the other
    options are. -/
theorem served_settings {depth : Nat} {tree : Files.Tree} {arguments : List String}
    {parsed : Options.Parsed ServeOption}
    (hparse : Options.parse serveGrammar arguments = .ok parsed) :
    (∀ given : List (ServeOption × Options.Value), (∀ entry ∈ given, CanBeGiven entry) →
      ∃ line : List String, Options.parse serveGrammar line = .ok { values := given }) ∧
    (∀ (settings : Settings) (level : String) (blank : List ServeOption),
      serve depth tree arguments = .ok (.served settings level blank) →
        settings.validate = .ok settings ∧ settings.IsUsable ∧
          ∃ before : Settings, fileSettings depth tree parsed = .ok before ∧
            Overrides parsed before settings blank) ∧
    ((∃ (settings : Settings) (level : String) (blank : List ServeOption),
        serve depth tree arguments = .ok (.served settings level blank)) ↔
      ∃ before : Settings, fileSettings depth tree parsed = .ok before ∧
        (∀ key ∈ neededOptions, parsed.isBlank key = false) ∧
        (override before parsed).IsUsable) ∧
    ∀ (path : String) (fault : ConfigFault), parsed.text? .config = some path → path ≠ "" →
      loadSettings depth tree path = .error fault → serve depth tree arguments = ending fault := by
  refine ⟨?_, ?_, ?_, ?_⟩
  · intro given hgiven
    refine ⟨given.reverse.map writtenOption, ?_⟩
    have hreverse : ∀ entry ∈ given.reverse, CanBeGiven entry := by
      intro entry hentry
      exact hgiven entry (List.mem_reverse.mp hentry)
    rw [parse_written hreverse, List.reverse_reverse]
  · intro settings level blank hserve
    obtain ⟨hprepared, _, rfl⟩ := (serve_eq_served_iff hparse).mp hserve
    obtain ⟨before, hbefore, hfilled, rfl, husable⟩ := prepared_eq_ok_iff.mp hprepared
    have hvalidate := Settings.validate_eq_ok_iff.mpr ⟨rfl, husable⟩
    exact ⟨hvalidate, husable, before, hbefore, overrides_override hparse before hfilled⟩
  · constructor
    · rintro ⟨settings, level, blank, hserve⟩
      obtain ⟨hprepared, _, _⟩ := (serve_eq_served_iff hparse).mp hserve
      obtain ⟨before, hbefore, hfilled, rfl, husable⟩ := prepared_eq_ok_iff.mp hprepared
      exact ⟨before, hbefore, hfilled, husable⟩
    · rintro ⟨before, hbefore, hfilled, husable⟩
      have hprepared := prepared_eq_ok_iff.mpr ⟨before, hbefore, hfilled, rfl, husable⟩
      exact ⟨_, _, _, serve_prepared hparse hprepared⟩
  · intro path fault hconfig hpath hload
    have hbefore : fileSettings depth tree parsed = .error fault := by
      rw [fileSettings, hconfig, Option.getD_some, if_neg hpath, hload]
    exact serve_unprepared hparse (prepared_unloaded hbefore)

/-- A port on the command line goes over that of the file, and the address of the file stays. -/
theorem served_settings_port_over_file :
    let saved : Settings := { host := "localhost", port := 81 }
    let line : List String := ["--config=settings.json", "--port=80"]
    let parsed : Options.Parsed ServeOption :=
      { values := [(.port, .whole 80), (.config, .text "settings.json")] }
    Options.parse serveGrammar line = .ok parsed ∧
      ∃ (bytes : List UInt8) (settings : Settings) (level : String) (blank : List ServeOption),
        saved.savedBytes? = some bytes ∧
          serve 988 (withFile bytes) line = .ok (.served settings level blank) ∧
          settings.IsUsable ∧ settings.port = 80 ∧ settings.maxLiteral = saved.maxLiteral := by
  intro saved line parsed
  have hparse : Options.parse serveGrammar line = .ok parsed := by
    have hgiven : ∀ entry ∈ parsed.values.reverse, CanBeGiven entry := by
      intro entry hentry
      rw [List.mem_reverse] at hentry
      rcases List.mem_cons.mp hentry with rfl | hlast
      · have hport : Text.IsWritable 80 := by decide +kernel
        exact ⟨hport, by decide, by decide⟩
      · rw [List.mem_singleton.mp hlast]
        exact ⟨trivial, by decide, by decide⟩
    have hwritten := parse_written hgiven
    rw [List.reverse_reverse] at hwritten
    exact hwritten
  obtain ⟨bytes, hbytes⟩ : ∃ bytes : List UInt8, saved.savedBytes? = some bytes := by
    cases hsaved : saved.savedBytes? with
    | some bytes => exact ⟨bytes, rfl⟩
    | none =>
        have hshort : ∀ n ∈ saved.numbers, Text.IsWritable n := by decide +kernel
        obtain ⟨n, hn, hlong⟩ := Settings.savedBytes?_eq_none hsaved
        exact absurd (hshort n hn) hlong
  have hload : loadSettings 988 (withFile bytes) "settings.json" = .ok saved := by
    have hfile : Settings.ofBytes 988 "settings.json" bytes = saved.validate.mapError .refused :=
      Settings.ofBytes_savedBytes 986 "settings.json" hbytes
    rw [loadSettings, read_withFile]
    simp only [hfile]
    rfl
  have hbefore : fileSettings 988 (withFile bytes) parsed = .ok saved := hload
  obtain ⟨_, hserved, hserves, _⟩ := @served_settings 988 (withFile bytes) line parsed hparse
  have husable : (override saved parsed).IsUsable := by
    apply Settings.fault?_eq_none_iff.mp
    rfl
  obtain ⟨settings, level, blank, hserve⟩ := hserves.mpr ⟨saved, hbefore, by decide, husable⟩
  obtain ⟨_, husable, before, hfound, hoverrides⟩ := hserved settings level blank hserve
  cases hbefore.symm.trans hfound
  refine ⟨hparse, bytes, settings, level, blank, hbytes, hserve, husable, ?_, hoverrides.maxLiteral⟩
  have hport : Settled wholeOf? saved.port (some (.whole 80)) (some settings.port) :=
    hoverrides.port
  cases hport with
  | given h => exact (Option.some.inj h).symm

end Abacus.Command
