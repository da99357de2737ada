/-
Module: Abacus.Settings.Document
Purpose: Settings kept in a JSON document. A reader takes what is there, converts values of other
  kinds where that makes sense, and leaves the rest as it is by default; a writer writes all.
Main exports: LoadFault, Settings.ofDocument, Settings.ofBytes, Settings.toDocument,
  Settings.toText?
-/
import Abacus.Json.Display
import Abacus.Json.Read
import Abacus.Json.Write
import Abacus.Settings
import Abacus.Text.Line
import Abacus.Text.Utf8
import Abacus.Text.Whole

namespace Abacus

open Json (Value)

/-- Why a JSON value cannot be the value of a setting. -/
inductive ValueFault where
  | notNumber (typeName : String)
  | notWhole (text : String)
  /-- A text with more digits than are read. -/
  | tooLong (digits : Nat)
  | nan
  | infinite
  | noItems (typeName : String)
deriving DecidableEq, Repr, Inhabited

/-- The words for a value that cannot be used. Of a long text the start is shown. -/
def ValueFault.message : ValueFault → String
  | notNumber typeName =>
      "int() argument must be a string, a bytes-like object or a real number, not " ++
        s!"'{typeName}'"
  | notWhole text =>
      "invalid literal for int() with base 10: " ++
        String.ofList ((Text.quotedChars text.toList).take 200)
  | tooLong digits => Text.tooLongMessage digits
  | nan => "cannot convert float NaN to integer"
  | infinite => "cannot convert float infinity to integer"
  | noItems typeName => s!"'{typeName}' object is not iterable"

/-- Why a document has no settings. -/
inductive LoadFault where
  | encoding (fault : Text.Utf8.Fault)
  | malformed (fault : Json.Fault) (text : List Char)
  | notObject (file : String)
  | value (file : String) (fault : ValueFault)
  | refused (fault : SettingsFault)
deriving DecidableEq, Repr, Inhabited

/-- What a user is told about a document without settings. -/
def LoadFault.message : LoadFault → String
  | encoding fault => fault.message
  | malformed fault text => fault.message text
  | notObject file => s!"Settings file {file} must contain a JSON object"
  | value _ .infinite => ValueFault.infinite.message
  | value file fault => s!"Invalid value in settings file {file}: {fault.message}"
  | refused fault => fault.message

namespace Json

/-- The whole number that a value stands for: a fraction is cut off, a text is read. -/
def Value.toWhole : Value → Except ValueFault Int
  | .whole n => .ok n
  | .bool b => .ok (if b then 1 else 0)
  | .real .nan => .error .nan
  | .real x =>
      match x.truncate? with
      | some n => .ok n
      | none => .error .infinite
  | .string s =>
      match Text.readWhole s with
      | .ok n => .ok n
      | .error .noNumber => .error (.notWhole s)
      | .error (.tooLong digits) => .error (.tooLong digits)
  | value => .error (.notNumber value.typeName)

/-- The texts that a value holds: those of the items of an array, the names of an object, the
characters of a string. -/
def Value.texts : Value → Except ValueFault (List String)
  | .array items => .ok (items.map Value.display)
  | .object members => .ok (members.map Prod.fst)
  | .string s => .ok (s.toList.map Char.toString)
  | value => .error (.noItems value.typeName)

end Json

namespace Settings

/-- The value of a member of a document, converted, or what it is by default. -/
def memberOr (document : Value) (name : String) (default : α)
    (convert : Value → Except LoadFault α) : Except LoadFault α :=
  match document.member? name with
  | some value => convert value
  | none => .ok default

/-- A setting that is a number. -/
def whole (file : String) (value : Value) : Except LoadFault Int :=
  value.toWhole.mapError (.value file)

/-- A setting that is the number of workers. -/
def optionalWhole (file : String) : Value → Except LoadFault (Option Int)
  | .null => .ok none
  | value => some <$> whole file value

/-- The settings that an object describes, in the order in which faults are looked for. -/
def ofMembers (file : String) (document : Value) : Except LoadFault Settings := do
  let base : Settings := {}
  let host ← memberOr document "host" base.host fun value => .ok value.display
  let port ← memberOr document "port" base.port (whole file)
  let resourcePath ← memberOr document "resourcePath" base.resourcePath
    fun value => .ok value.display
  let dispatchMode ← memberOr document "dispatchMode" base.dispatchMode
    fun value => (DispatchMode.ofName value.display).mapError .refused
  let maxWorkers ← memberOr document "maxWorkers" none (optionalWhole file)
  let staticExtensions ← memberOr document "staticExtensions" base.staticExtensions
    fun value => value.texts.mapError (.value file)
  let maxLiteral ← memberOr document "maxLiteral" base.maxLiteral (whole file)
  return { host, port, resourcePath, dispatchMode, maxWorkers, staticExtensions, maxLiteral }

/-- The settings that a document describes, if they can be used. -/
def ofDocument (file : String) (document : Value) : Except LoadFault Settings :=
  match document with
  | .object _ => do
      let settings ← ofMembers file document
      settings.validate.mapError .refused
  | _ => .error (.notObject file)

/-- The settings that the bytes of a file describe, in which brackets may be nested as deep as
`depth`. -/
def ofBytes (depth : Nat) (file : String) (bytes : List UInt8) : Except LoadFault Settings :=
  match Text.Utf8.decode bytes with
  | .error fault => .error (.encoding fault)
  | .ok chars =>
      let text := Text.unifyLines chars
      match Json.read depth text with
      | .error fault => .error (.malformed fault text)
      | .ok document => ofDocument file document

/-- The document of settings. -/
def toDocument (settings : Settings) : Value :=
  .object [
    ("host", .string settings.host),
    ("port", .whole settings.port),
    ("resourcePath", .string settings.resourcePath),
    ("dispatchMode", .string settings.dispatchMode.name),
    ("maxWorkers", match settings.maxWorkers with
      | some n => .whole n
      | none => .null),
    ("staticExtensions", .array (settings.staticExtensions.map .string)),
    ("maxLiteral", .whole settings.maxLiteral)]

/-- The text of a settings file, if the numbers of the settings can be written. -/
def toText? (settings : Settings) : Option String :=
  Json.indented? settings.toDocument

end Settings

end Abacus
