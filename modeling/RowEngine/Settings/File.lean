import RowEngine.Settings.Basic
import RowEngine.Toml.Document

/-!
# Settings from a file

A settings file is a TOML document; unknown entries are passed over. Without a file the defaults
hold.
-/

namespace RowEngine

/-- What was found where the settings file was looked for. -/
inductive SettingsFile where
  | missing
  | unreadable (reason : String)
  | contents (bytes : List UInt8)

namespace Settings

def countOf? : Toml.Node → Option Nat
  | .integer n => if 0 ≤ n.toInt then some n.toInt.toNat else none
  | _ => none

def flagOf? : Toml.Node → Option Bool
  | .boolean b => some b
  | _ => none

/-- The value of an entry, if there is one: `none` if it has the wrong type. -/
def entry? {α : Type} (read : Toml.Node → Option α) (key : String) (entries : Toml.Entries) :
    Option (Option α) :=
  match Toml.find? key entries with
  | some node => (read node).map some
  | none => some none

def draftOf? (entries : Toml.Entries) : Option Draft := do
  return ⟨← entry? countOf? "sort_buffer_capacity" entries,
    ← entry? countOf? "hash_table_capacity" entries, ← entry? flagOf? "nulls_first" entries⟩

def ofToml (s : String) : Except Failure Settings :=
  match (Toml.read? s).bind draftOf? with
  | some draft => draft.build
  | none => .error (.configuration .unreadable)

def load : SettingsFile → Except Failure Settings
  | .missing => .ok default
  | .unreadable reason => .error (.io reason)
  | .contents bytes =>
    match String.fromUTF8? ⟨bytes.toArray⟩ with
    | some s => ofToml s
    | none => .error (.io "the file is not valid UTF-8")

end Settings

end RowEngine
