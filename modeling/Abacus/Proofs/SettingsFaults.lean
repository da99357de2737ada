/-
Module: Abacus.Proofs.SettingsFaults
Purpose: Which files of settings cannot be loaded, and which of them break the reader off. The
  members of a document are read one after the other, and the first that cannot be used decides.
  A fault goes unreported in three cases: bytes that are no text, a text beyond the limits of its
  reader, and a number without a whole part. Settings that are read are used if each field passes
  its check.
Main exports: Member, Member.check, discard_ofMembers, ofMembers_eq_error_iff,
  toWhole_eq_infinite_iff, Breaks, ofBytes_unreported_iff, IsUsable, validate_eq_ok_iff
-/
import Abacus.Command.Serve
import Abacus.Proofs.JsonNesting

namespace Abacus

open Json (Value)

theorem mapError_ok {fault report α : Type} (f : fault → report) (value : α) :
    (Except.ok value : Except fault α).mapError f = .ok value :=
  rfl

theorem mapError_error {fault report α : Type} (f : fault → report) (found : fault) :
    (Except.error found : Except fault α).mapError f = .error (f found) :=
  rfl

theorem mapError_eq_error_iff {fault report α : Type} {f : fault → report}
    {result : Except fault α} {found : report} :
    result.mapError f = .error found ↔
      ∃ given : fault, result = .error given ∧ f given = found := by
  cases result with
  | ok value => simp [mapError_ok]
  | error given => simp [mapError_error]

/-- A run of checks fails with the fault of the first check that fails. -/
theorem forM_eq_error_iff {fault key : Type} {check : key → Except fault Unit} {keys : List key}
    {found : fault} :
    forM keys check = .error found ↔
      ∃ (before : List key) (first : key) (after : List key), keys = before ++ first :: after ∧
        (∀ earlier ∈ before, check earlier = .ok ()) ∧ check first = .error found := by
  -- A check that fails is the first one that does; one that passes stands before it.
  induction keys with
  | nil =>
      constructor
      · intro h
        cases h
      · rintro ⟨before, first, after, hkeys, _⟩
        exact absurd hkeys.symm (List.append_ne_nil_of_right_ne_nil before (List.cons_ne_nil _ _))
  | cons key keys ih =>
      rw [List.forM_cons]
      cases hkey : check key with
      | error fault =>
          constructor
          · intro h
            cases h
            exact ⟨[], key, keys, rfl, nofun, hkey⟩
          · rintro ⟨before, first, after, hkeys, hbefore, hfirst⟩
            cases before with
            | nil =>
                cases hkeys
                rw [← hfirst, hkey]
                rfl
            | cons earlier before =>
                cases hkeys
                have hearlier := hbefore key List.mem_cons_self
                rw [hkey] at hearlier
                cases hearlier
      | ok passed =>
          have hgo : ((Except.ok passed : Except fault Unit) >>= fun _ => forM keys check) =
              forM keys check := rfl
          rw [hgo, ih]
          constructor
          · rintro ⟨before, first, after, rfl, hbefore, hfirst⟩
            exact ⟨key :: before, first, after, rfl,
              List.forall_mem_cons.mpr ⟨hkey, hbefore⟩, hfirst⟩
          · rintro ⟨before, first, after, hkeys, hbefore, hfirst⟩
            cases before with
            | nil =>
                cases hkeys
                rw [hkey] at hfirst
                cases hfirst
            | cons earlier before =>
                cases hkeys
                exact ⟨before, first, after, rfl, (List.forall_mem_cons.mp hbefore).2, hfirst⟩

namespace Settings

/-! ### The members of a document -/

/-- The members of a document whose values may be refused. The two others, the address and the
    directory of the pages, are texts, and every value has a text. -/
inductive Member where
  | port
  | dispatchMode
  | maxWorkers
  | staticExtensions
  | maxLiteral
deriving DecidableEq, Repr

namespace Member

/-- The members in the order in which they are read. -/
def inOrder : List Member :=
  [port, dispatchMode, maxWorkers, staticExtensions, maxLiteral]

/-- The name of a member in a document. -/
def name : Member → String
  | port => "port"
  | dispatchMode => "dispatchMode"
  | maxWorkers => "maxWorkers"
  | staticExtensions => "staticExtensions"
  | maxLiteral => "maxLiteral"

/-- Whether a member is read as a whole number. -/
def isNumber : Member → Bool
  | port | maxWorkers | maxLiteral => true
  | dispatchMode | staticExtensions => false

/-- Reads a value of a member, only to see whether it can be used. -/
def checkValue (file : String) (value : Value) : Member → Except LoadFault Unit
  | port | maxLiteral => discard (whole file value)
  | dispatchMode => discard ((DispatchMode.ofName value.display).mapError .refused)
  | maxWorkers => discard (optionalWhole file value)
  | staticExtensions => discard (value.texts.mapError (.value file))

/-- Reads a member of a document; one that is not there is no fault. -/
def check (file : String) (document : Value) (member : Member) : Except LoadFault Unit :=
  memberOr document member.name () fun value => member.checkValue file value

end Member

theorem discard_memberOr {α : Type} (document : Value) (name : String) (default : α)
    (convert : Value → Except LoadFault α) :
    discard (memberOr document name default convert) =
      memberOr document name () fun value => discard (convert value) := by
  unfold memberOr
  split <;> rfl

theorem exists_memberOr_ok {α : Type} (document : Value) (name : String) (default : α)
    (convert : Value → α) :
    ∃ found : α, memberOr document name default (fun value => .ok (convert value)) = .ok found := by
  unfold memberOr
  split
  · exact ⟨_, rfl⟩
  · exact ⟨_, rfl⟩

/-- Reading the settings is reading the members one after the other. -/
theorem discard_ofMembers (file : String) (document : Value) :
    discard (ofMembers file document) = forM Member.inOrder (Member.check file document) := by
  have hport := discard_memberOr document "port" ({} : Settings).port (whole file)
  have hmode := discard_memberOr document "dispatchMode" ({} : Settings).dispatchMode
    fun value => (DispatchMode.ofName value.display).mapError .refused
  have hworkers := discard_memberOr document "maxWorkers" none (optionalWhole file)
  have hextensions := discard_memberOr document "staticExtensions"
    ({} : Settings).staticExtensions fun value => value.texts.mapError (.value file)
  have hliteral := discard_memberOr document "maxLiteral" ({} : Settings).maxLiteral (whole file)
  obtain ⟨host, hhost⟩ := exists_memberOr_ok document "host" ({} : Settings).host Value.display
  obtain ⟨path, hpath⟩ :=
    exists_memberOr_ok document "resourcePath" ({} : Settings).resourcePath Value.display
  simp only [Member.inOrder, List.forM_cons, List.forM_nil, Member.check, Member.checkValue,
    Member.name, ← hport, ← hmode, ← hworkers, ← hextensions, ← hliteral]
  simp only [ofMembers, hhost, hpath]
  generalize memberOr document "port" _ _ = port
  generalize memberOr document "dispatchMode" _ _ = mode
  generalize memberOr document "maxWorkers" _ _ = workers
  generalize memberOr document "staticExtensions" _ _ = extensions
  generalize memberOr document "maxLiteral" _ _ = literal
  cases port with
  | error fault => rfl
  | ok port =>
  cases mode with
  | error fault => rfl
  | ok mode =>
  cases workers with
  | error fault => rfl
  | ok workers =>
  cases extensions with
  | error fault => rfl
  | ok extensions =>
  cases literal with
  | error fault => rfl
  | ok literal => rfl

theorem discard_eq_error_iff {fault α : Type} {result : Except fault α} {found : fault} :
    discard result = .error found ↔ result = .error found := by
  cases result with
  | error fault => simp [discard, Functor.discard, Functor.mapConst, Except.map]
  | ok value => simp [discard, Functor.discard, Functor.mapConst, Except.map]

/-- A document has no settings for the fault of the first member that cannot be used. -/
theorem ofMembers_eq_error_iff {file : String} {document : Value} {fault : LoadFault} :
    ofMembers file document = .error fault ↔
      ∃ (before : List Member) (first : Member) (after : List Member),
        Member.inOrder = before ++ first :: after ∧
          (∀ earlier ∈ before, earlier.check file document = .ok ()) ∧
          first.check file document = .error fault := by
  rw [← discard_eq_error_iff, discard_ofMembers, forM_eq_error_iff]

/-! ### Numbers without a whole part -/

theorem toWhole_eq_infinite_iff {value : Value} :
    value.toWhole = .error .infinite ↔ ∃ negative : Bool, value = .real (.infinite negative) := by
  constructor
  · intro h
    unfold Value.toWhole at h
    split at h
    · cases h
    · cases h
    · cases h
    · next x hx =>
        cases x with
        | infinite negative => exact ⟨negative, rfl⟩
        | nan => exact absurd rfl hx
        | finite negative mantissa exponent => cases h
    · split at h <;> cases h
    · cases h
  · rintro ⟨negative, rfl⟩
    rfl

/-- Whether a fault of a document ends the reader without a report. -/
def Unreported (fault : LoadFault) : Prop :=
  (Command.ConfigFault.document fault).isReported = false

theorem whole_unreported_iff {file : String} {value : Value} :
    (∃ fault : LoadFault, whole file value = .error fault ∧ Unreported fault) ↔
      ∃ negative : Bool, value = .real (.infinite negative) := by
  rw [← toWhole_eq_infinite_iff]
  unfold whole
  constructor
  · rintro ⟨fault, hfault, hunreported⟩
    obtain ⟨given, hgiven, rfl⟩ := mapError_eq_error_iff.mp hfault
    cases given with
    | infinite => exact hgiven
    | notNumber | notWhole | tooLong | nan | noItems => cases hunreported
  · intro hinfinite
    exact ⟨.value file .infinite, mapError_eq_error_iff.mpr ⟨.infinite, hinfinite, rfl⟩, rfl⟩

theorem optionalWhole_eq_error_iff {file : String} {value : Value} {fault : LoadFault} :
    optionalWhole file value = .error fault ↔ value ≠ .null ∧ whole file value = .error fault := by
  unfold optionalWhole
  split
  · simp
  · next hvalue =>
      have hne : value ≠ .null := hvalue
      cases whole file value with
      | error found => simp [hne, Functor.map, Except.map]
      | ok n => simp [hne, Functor.map, Except.map]

theorem texts_ne_infinite (value : Value) : value.texts ≠ .error .infinite := by
  unfold Value.texts
  split <;> nofun

/-- Of the values of a member, only an infinite number for a whole one ends the reader without a
    report. -/
theorem Member.checkValue_unreported_iff {file : String} {value : Value} {member : Member} :
    (∃ fault : LoadFault, member.checkValue file value = .error fault ∧ Unreported fault) ↔
      member.isNumber = true ∧ ∃ negative : Bool, value = .real (.infinite negative) := by
  cases member with
  | port | maxLiteral =>
      simp only [checkValue, discard_eq_error_iff, whole_unreported_iff, isNumber, true_and]
  | maxWorkers =>
      simp only [checkValue, discard_eq_error_iff, optionalWhole_eq_error_iff, and_assoc,
        exists_and_left, whole_unreported_iff, isNumber, true_and]
      constructor
      · rintro ⟨_, hinfinite⟩
        exact hinfinite
      · rintro ⟨negative, rfl⟩
        exact ⟨nofun, negative, rfl⟩
  | dispatchMode =>
      simp only [checkValue, discard_eq_error_iff, isNumber, Bool.false_eq_true, false_and,
        iff_false]
      rintro ⟨fault, hfault, hunreported⟩
      obtain ⟨given, _, rfl⟩ := mapError_eq_error_iff.mp hfault
      cases hunreported
  | staticExtensions =>
      simp only [checkValue, discard_eq_error_iff, isNumber, Bool.false_eq_true, false_and,
        iff_false]
      rintro ⟨fault, hfault, hunreported⟩
      obtain ⟨given, hgiven, rfl⟩ := mapError_eq_error_iff.mp hfault
      cases given with
      | infinite => exact texts_ne_infinite value hgiven
      | notNumber | notWhole | tooLong | nan | noItems => cases hunreported

theorem Member.check_unreported_iff {file : String} {document : Value} {member : Member} :
    (∃ fault : LoadFault, member.check file document = .error fault ∧ Unreported fault) ↔
      member.isNumber = true ∧
        ∃ negative : Bool, document.member? member.name = some (.real (.infinite negative)) := by
  unfold check memberOr
  cases document.member? member.name with
  | none => simp
  | some value => simpa using checkValue_unreported_iff

/-! ### Files that break the reader off -/

/-- The files that break the reader off without a report: their bytes are no text, or the text is
    beyond the limits of the reader, or it is an object and of its members the first that cannot be
    used is to be a whole number and is infinite. -/
inductive Breaks (depth : Nat) (file : String) (bytes : List UInt8) : Prop where
  | encoding {fault : Text.Utf8.Fault} (hbytes : Text.Utf8.decode bytes = .error fault)
  | limits {text : List Char} (hbytes : Text.Utf8.decode bytes = .ok text)
      (htext : Json.Exceeds depth (Text.unifyLines text))
  | infinite {text : List Char} {members : List (String × Value)} {before after : List Member}
      {member : Member} {negative : Bool} (hbytes : Text.Utf8.decode bytes = .ok text)
      (htext : Json.read depth (Text.unifyLines text) = .ok (.object members))
      (horder : Member.inOrder = before ++ member :: after)
      (hbefore : ∀ earlier ∈ before, earlier.check file (.object members) = .ok ())
      (hnumber : member.isNumber = true)
      (hvalue : members.lookup member.name = some (.real (.infinite negative)))

theorem ofDocument_unreported_iff {file : String} {document : Value} :
    (∃ fault : LoadFault, ofDocument file document = .error fault ∧ Unreported fault) ↔
      ∃ members : List (String × Value), document = .object members ∧
        ∃ fault : LoadFault, ofMembers file document = .error fault ∧ Unreported fault := by
  constructor
  · rintro ⟨fault, hload, hunreported⟩
    unfold ofDocument at hload
    split at hload
    · next members =>
        refine ⟨members, rfl, ?_⟩
        cases hmembers : ofMembers file (.object members) with
        | error found =>
            rw [hmembers] at hload
            cases hload
            exact ⟨fault, rfl, hunreported⟩
        | ok settings =>
            have hvalidate : settings.validate.mapError .refused = .error fault := by
              rw [hmembers] at hload
              exact hload
            obtain ⟨refused, _, rfl⟩ := mapError_eq_error_iff.mp hvalidate
            cases hunreported
    · cases hload
      cases hunreported
  · rintro ⟨members, rfl, fault, hmembers, hunreported⟩
    refine ⟨fault, ?_, hunreported⟩
    simp only [ofDocument, hmembers]
    rfl

/-- Exactly these files break the reader off. For every other file there are settings, or a fault
    that is reported. -/
theorem ofBytes_unreported_iff {depth : Nat} {file : String} {bytes : List UInt8} :
    (∃ fault : LoadFault, ofBytes depth file bytes = .error fault ∧ Unreported fault) ↔
      Breaks depth file bytes := by
  constructor
  · rintro ⟨fault, hload, hunreported⟩
    unfold ofBytes at hload
    split at hload
    · next encoding hbytes => exact .encoding hbytes
    · next text hbytes =>
        simp only at hload
        split at hload
        · next malformed htext =>
            cases hload
            have hlimit : malformed.reason.isLimit = true := by
              simpa [Unreported, Command.ConfigFault.isReported] using hunreported
            exact .limits hbytes ⟨malformed, htext, hlimit⟩
        · next document htext =>
            obtain ⟨members, rfl, found, hmembers, hfound⟩ :=
              ofDocument_unreported_iff.mp ⟨fault, hload, hunreported⟩
            obtain ⟨before, member, after, horder, hbefore, hmember⟩ :=
              ofMembers_eq_error_iff.mp hmembers
            obtain ⟨hnumber, negative, hvalue⟩ :=
              Member.check_unreported_iff.mp ⟨found, hmember, hfound⟩
            exact .infinite hbytes htext horder hbefore hnumber hvalue
  · intro h
    cases h with
    | @encoding fault hbytes =>
        refine ⟨.encoding fault, ?_, rfl⟩
        simp only [ofBytes, hbytes]
    | @limits text hbytes htext =>
        obtain ⟨fault, hfault, hlimit⟩ := htext
        refine ⟨.malformed fault (Text.unifyLines text), ?_, ?_⟩
        · simp only [ofBytes, hbytes, hfault]
        · simp [Unreported, Command.ConfigFault.isReported, hlimit]
    | @infinite text members _ _ member _ hbytes htext horder hbefore hnumber hvalue =>
        have hcheck : ∃ fault : LoadFault,
            member.check file (.object members) = .error fault ∧ Unreported fault :=
          Member.check_unreported_iff.mpr ⟨hnumber, _, hvalue⟩
        obtain ⟨fault, hmember, hunreported⟩ := hcheck
        have hmembers := ofMembers_eq_error_iff.mpr ⟨_, _, _, horder, hbefore, hmember⟩
        obtain ⟨found, hload, hfound⟩ :=
          ofDocument_unreported_iff.mpr ⟨members, rfl, fault, hmembers, hunreported⟩
        refine ⟨found, ?_, hfound⟩
        simp only [ofBytes, hbytes, htext, hload]

/-! ### Settings that can be used -/

/-- Settings that can be used: the port is one of 65535, there is a worker at least if their number
    is given, the bound for literals is not negative, and every extension starts with a point. -/
structure IsUsable (settings : Settings) : Prop where
  port_low : 1 ≤ settings.port
  port_high : settings.port ≤ 65535
  workers : ∀ n ∈ settings.maxWorkers, 1 ≤ n
  literal : 0 ≤ settings.maxLiteral
  extensions : ∀ text ∈ settings.staticExtensions, text.toList.head? = some '.'

/-- The checks find no fault exactly in settings that can be used. -/
theorem fault?_eq_none_iff {settings : Settings} : settings.fault? = none ↔ settings.IsUsable := by
  have hworkers : settings.maxWorkers.filter (· < 1) = none ↔
      ∀ n ∈ settings.maxWorkers, 1 ≤ n := by
    simp [Option.filter_eq_none_iff]
  have hextensions : (settings.staticExtensions.find? fun text =>
      text.toList.head? ≠ some '.') = none ↔
        ∀ text ∈ settings.staticExtensions, text.toList.head? = some '.' := by
    simp
  unfold fault?
  constructor
  · intro hnone
    split at hnone
    · cases hnone
    · next hport =>
        obtain ⟨hlow, hhigh⟩ := Decidable.not_not.mp hport
        split at hnone
        · cases hnone
        · next hfew =>
            split at hnone
            · cases hnone
            · next hliteral =>
                have hfound := Option.map_eq_none_iff.mp hnone
                exact ⟨hlow, hhigh, hworkers.mp hfew, by omega, hextensions.mp hfound⟩
  · intro husable
    have hport : ¬¬(1 ≤ settings.port ∧ settings.port ≤ 65535) :=
      Decidable.not_not.mpr ⟨husable.port_low, husable.port_high⟩
    have hliteral : ¬ settings.maxLiteral < 0 := by
      have hle := husable.literal
      omega
    rw [if_neg hport, hworkers.mpr husable.workers]
    simp only [if_neg hliteral, hextensions.mpr husable.extensions]
    rfl

theorem validate_eq_ok_iff {settings accepted : Settings} :
    settings.validate = .ok accepted ↔ accepted = settings ∧ settings.IsUsable := by
  rw [← fault?_eq_none_iff, validate]
  cases settings.fault? with
  | some fault => simp
  | none =>
      simp only [Except.ok.injEq, and_true]
      exact eq_comm

end Settings

end Abacus
