import ModelLayout.Settings
import ModelLayout.Shell.Toml.Document

/-!
# Settings files

A settings file is a TOML document.  Three of its keys are settings; all others are ignored.

* `Settings.ofToml?`, `Settings.ofToml` — the settings in the text of a file.
-/

namespace ModelLayout

namespace Toml

/-- A list of texts. -/
def Value.texts? : Value → Option (List String)
  | array items => items.mapM fun
    | string s => some s
    | _ => none
  | _ => none

/-- The name of the only key of a date that is taken for a table. -/
def datetimeKey : String := "$__toml_private_datetime"

/-- A table of texts.  A date is a table with its own text under a key of its own. -/
def Value.textTable? : Value → Option (List (String × String))
  | table _ entries => entries.mapM fun
    | (key, string s) => some (key, s)
    | _ => none
  | datetime d => some [(datetimeKey, d.text)]
  | _ => none

end Toml

namespace Settings

/-- Read a key that may be missing.  If it is there, it must have a value of the right kind. -/
def optionalKey {α : Type} (read : Toml.Value → Option α) (entries : Toml.Entries) (key : String) :
    Option (Option α) :=
  match entries.get? key with
  | none => some none
  | some v => (read v).map some

/-- The settings in a table. -/
def ofEntries? (entries : Toml.Entries) : Option Settings := do
  return {
    requiredOrder := ← optionalKey Toml.Value.texts? entries "required_order"
    requiredComments := ← optionalKey Toml.Value.textTable? entries "required_comments"
    miscMethodNames := ← optionalKey Toml.Value.texts? entries "misc_method_names" }

/-- The settings in the text of a file, if it is a document with values of the right kinds. -/
def ofToml? (text : String) : Option Settings :=
  (Toml.parse? text).bind ofEntries?

/-- The settings in the text of a file, or that there are none.  It is not said what is wrong. -/
def ofToml (text : String) : Except String Settings :=
  match ofToml? text with
  | none => .error "TOML parse error"
  | some s => .ok s

end Settings

end ModelLayout
