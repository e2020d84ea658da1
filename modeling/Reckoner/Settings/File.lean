import Reckoner.Settings.Basic
import Reckoner.Toml.Document

namespace Reckoner

/-!
# Settings files and the version

Settings are the section `prattcalc` of a TOML document in a file. A missing file
and a missing section mean the standard settings. The version of the calculator is
taken from the document that describes the project, if it describes this one.
-/

/-- What a path leads to. -/
inductive FileContent where
  | absent
  | directory
  /-- Nothing, as the path or a part of it is longer than any may be. -/
  | tooLong
  | bytes (content : ByteArray)

/-- Why settings or a version cannot be loaded. -/
inductive LoadError where
  /-- The path leads to a directory. -/
  | isDirectory
  /-- The path or a part of it is longer than any may be. -/
  | pathTooLong
  /-- The path holds a null character. -/
  | nullInPath
  /-- The bytes are not UTF-8 text. -/
  | notText
  /-- A decimal integer has more digits than an integer may have. -/
  | integerTooLong (digits : Nat)
  /-- The values of the document are nested too deeply. -/
  | nesting
  /-- The text is not a TOML document. -/
  | invalidDocument
  /-- The section of the project is not a table. -/
  | notATable
  /-- An integer has too many digits to be written. -/
  | beyondDigits
  /-- The settings in the document are not valid. -/
  | invalidSettings (complaints : List Settings.Complaint)
  deriving Repr, DecidableEq

namespace LoadError

/-- The load error of an error in a document. -/
def ofToml : Toml.Error → LoadError
  | .invalid => .invalidDocument
  | .integerTooLong digits => .integerTooLong digits
  | .nesting => .nesting

/-- The message about a settings file, for the errors that are reported with one. -/
def message?
    (path : String) :
    LoadError →
    Option String
  | .invalidDocument => some ("Invalid TOML in " ++ path)
  | .invalidSettings _ => some ("Invalid configuration in " ++ path)
  | _ => none

/-- The message of an integer with too many digits. -/
def integerMessage
    (digits : Nat) :
    String :=
  "Exceeds the limit (4300 digits) for integer string conversion: value has " ++
    toString digits ++
    " digits; use sys.set_int_max_str_digits() to increase the limit"

/-- The message of a path that holds a null character. -/
def nullMessage : String :=
  "embedded null byte"

end LoadError

/-- The document in the bytes of a file. -/
def Toml.ofBytes
    (stack : Stack)
    (content : ByteArray) :
    Except LoadError Toml.Entries :=
  match String.fromUTF8? content with
  | none => .error .notText
  | some text => (Toml.parse stack text).mapError LoadError.ofToml

namespace Settings

/-- The file that holds the settings if no other is named. -/
def defaultPath : String :=
  "prattcalc.toml"

/-- The section of the document that holds the settings. -/
def sectionName : String :=
  "prattcalc"

/-- The settings in a document. -/
def ofDocument
    (document : Toml.Entries) :
    Except LoadError Settings :=
  match document.get? sectionName with
  | none => .ok standard
  | some value => (ofValue value).mapError .invalidSettings

/-- The settings in a file. -/
def ofFile
    (stack : Toml.Stack) :
    FileContent →
    Except LoadError Settings
  | .absent => .ok standard
  | .directory => .error .isDirectory
  | .tooLong => .error .pathTooLong
  | .bytes content => (Toml.ofBytes stack content).bind ofDocument

end Settings

namespace Version

/-- The name of the project whose version is taken. -/
def projectName : String :=
  "prattcalc"

/-- The version where no document tells one. -/
def unknown : String :=
  "0.0.0"

/-- The version of this calculator. -/
def current : String :=
  "0.1.0"

/-- The version in the section of a project, if it is this one. -/
def ofProject
    (project : Toml.Entries) :
    Except LoadError String :=
  match project.get? "name", project.get? "version" with
  | some (.string name), some version =>
      if name = projectName then
        match version.text? with
        | some text => .ok text
        | none => .error .beyondDigits
      else
        .ok unknown
  | _, _ => .ok unknown

/-- The version in the file that describes a project. -/
def ofFile
    (stack : Toml.Stack) :
    FileContent →
    Except LoadError String
  | .absent => .ok unknown
  | .directory => .ok unknown
  | .tooLong => .ok unknown
  | .bytes content =>
      (Toml.ofBytes stack content).bind fun document =>
        match document.get? "project" with
        | none => .ok unknown
        | some (.table project) => ofProject project
        | some _ => .error .notATable

end Version

end Reckoner
