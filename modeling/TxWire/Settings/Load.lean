import TxWire.Log
import TxWire.Settings.Toml

/-!
Getting settings from a text or from a file.

Settings that are read are checked before they are handed out. Only the defaults, which hold when
there is no file, need no check.
-/

namespace TxWire

/-- Why there are no settings. -/
inductive SettingsError
  /-- There is no such file. -/
  | missing
  /-- The file is not text in UTF-8. -/
  | notText
  /-- The text is not TOML. -/
  | notToml
  /-- The document does not fit settings. -/
  | unfit (error : Decode.Error)
  /-- The settings are not valid. -/
  | invalid (fault : SettingsFault)
  deriving DecidableEq

namespace Settings

/-- Reads settings and checks them. -/
def ofToml (text : String) : Logged (Except SettingsError Settings) :=
  match Toml.parse? text with
  | none => return .error .notToml
  | some entries => match ofEntries entries with
    | .error e => return .error (.unfit e)
    | .ok settings => match settings.validate with
      | .error fault => return .error (.invalid fault)
      | .ok () => do
        Logged.report (.settingsLoaded settings.network settings.expirationSeconds.toNat)
        return .ok settings

/-- Reads settings from the bytes of a file, `none` if there is no file. -/
def load (file : Option (List UInt8)) : Logged (Except SettingsError Settings) :=
  match file with
  | none => return .error .missing
  | some bytes => match ofUtf8? bytes with
    | none => return .error .notText
    | some text => ofToml text

/-- Reads settings from a file if there is one. -/
def loadOrDefault (file : Option (List UInt8)) : Logged (Except SettingsError Settings) :=
  match file with
  | none => do
    Logged.report .settingsMissing
    return .ok {}
  | some bytes => load (some bytes)

end Settings

end TxWire
