import Phrasebook.Options.Basic
import Phrasebook.Options.Fault
import Phrasebook.Settings.Reader

/-!
# Options from settings

The keys of a settings file are the options. A target or a guard style is given by its name,
or as a table whose only key is the name and whose value is empty. Names are told apart by
case here. A target goes by all of its aliases, a guard style only by its own name.

A file that breaks the rules of its format is refused as such. Otherwise the first entry
that is at fault decides, and its key is looked at before its value.
-/

namespace Phrasebook.Options

/-- Whether a value is an empty array or an empty table. -/
def isEmptyNode : Settings.Node → Bool
  | .array items => items.isEmpty
  | .table _ entries => entries.isEmpty
  | _ => false

/-- The choice that a value makes among named ones. -/
def choice (find : String → Option α) (unknown : String → Fault) :
    Settings.Node → Except Fault α
  | .text name =>
    match find name with
    | some a => .ok a
    | none => .error (unknown name)
  | .table _ [(name, value)] =>
    match find name with
    | some a => if isEmptyNode value then .ok a else .error .invalid
    | none => .error (unknown name)
  | _ => .error .invalid

/-- The guard style of a settings file that has this name. -/
def guardNamed? (name : String) : Option GuardStyle :=
  [GuardStyle.pragma, GuardStyle.ifndef].find? fun style => style.name == name

/-- The truth value of a setting. -/
def truth : Settings.Node → Except Fault Bool
  | .flag b => .ok b
  | _ => .error .invalid

/-- The options after one more entry. -/
def applyEntry (options : Options) (entry : String × Settings.Node) : Except Fault Options :=
  match entry.1 with
  | "target" => return { options with target := ← choice Target.ofAlias? .unknownTarget entry.2 }
  | "guard" => return { options with guard := ← choice guardNamed? .unknownGuard entry.2 }
  | "strict" => return { options with strict := ← truth entry.2 }
  | "lint" => return { options with lint := ← truth entry.2 }
  | key => .error (.unknownKey key)

/-- The options that a settings file gives; what it does not mention keeps its default. -/
def ofDocument (document : String) : Except Fault Options :=
  match Settings.read? document with
  | none => .error .invalid
  | some entries => entries.foldlM applyEntry {}

end Phrasebook.Options
