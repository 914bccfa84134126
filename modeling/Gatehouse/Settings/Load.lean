import Gatehouse.Layered.Decoder
import Gatehouse.Layered.Environment
import Gatehouse.Layered.Path
import Gatehouse.Settings.Validation
import Gatehouse.Toml.Document

/-!
# Loading settings

The file comes first, if there is one, and the environment on top of it. What they say together is read as
settings, and the settings are checked.
-/

namespace Gatehouse

inductive LoadError where
  | unreadableFile
  /-- A key points in front of an array. -/
  | badIndex
  | decode (error : Layered.DecodeError)
  | invalid (error : SettingsError)

namespace Settings

def skipByteOrderMark : List Char → List Char
  | c :: cs => if c.toNat = 0xFEFF then cs else c :: cs
  | [] => []

def fileEntries (file : Option String) : Except LoadError (List (String × Layered.Value)) :=
  match file with
  | none => .ok []
  | some text =>
    match Toml.document? (skipByteOrderMark text.toList) with
    | some entries => .ok (Layered.Value.ofTomlEntries entries)
    | none => .error .unreadableFile

/-- The settings as the sources give them, before they are checked. -/
def gather (file : Option String) (environment : List (String × String)) : Except LoadError Settings := do
  let entries ← fileEntries file
  match Layered.Value.emptyTable.overlay (entries ++ Layered.ofEnvironment environment) with
  | none => throw .badIndex
  | some root => (Layered.Decoder.settings root).mapError .decode

def load (file : Option String) (environment : List (String × String)) : Except LoadError Settings := do
  let settings ← gather file environment
  settings.validate.mapError .invalid
  return settings

end Settings

end Gatehouse
