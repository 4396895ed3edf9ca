import ServerLaunch.LaunchError

/-!
# Slash commands

The commands that the extension registers with its host. They are known by name but
none of them does anything yet: running one reports that, completing one offers
nothing, and only an unknown name is an error of the caller.

## Main definitions

* `SlashCommand`: the registered commands.
* `SlashCommand.run`, `SlashCommand.complete`: running and completing by name.
-/
namespace ServerLaunch

/-- A registered command. -/
inductive SlashCommand where
  | view
  | route
  | artisan
deriving DecidableEq, Repr

namespace SlashCommand

/-- A labelled range of the text that a command gives. -/
structure Section where
  start : Nat
  stop : Nat
  label : String
deriving DecidableEq, Repr

/-- What a command gives. -/
structure Output where
  text : String
  sections : List Section
deriving DecidableEq, Repr

/-- An offered completion of an argument. -/
structure Completion where
  label : String
  newText : String
  runsCommand : Bool
deriving DecidableEq, Repr

/-- The commands in the order in which they are registered. -/
def all : List SlashCommand := [view, route, artisan]

/-- No command is missing from the list. -/
theorem mem_all (command : SlashCommand) : command ∈ all := by cases command <;> decide

/-- The name by which a command is called. -/
def name : SlashCommand → String
  | view => "laravel_view"
  | route => "laravel_route"
  | artisan => "laravel_artisan"

/-- The command of a name. -/
def ofName? (name : String) : Option SlashCommand := all.find? (·.name == name)

/-- Every command is found under its own name. -/
@[simp] theorem ofName?_name (command : SlashCommand) : ofName? command.name = some command := by
  cases command <;> decide

/-- What is said of a command that does nothing yet. -/
def pending : SlashCommand → String
  | view => "View search is not implemented yet"
  | route => "Route search is not implemented yet"
  | artisan => "Artisan helpers are not implemented yet"

/-- Run the command of a name. -/
def run (name : String) (_arguments : List String) : Except LaunchError Output :=
  match ofName? name with
  | none => .error (.unsupportedSubCommand name)
  | some command => .error (.subCommandNotImplemented command.name command.pending)

/-- The completions that the command of a name offers. -/
def complete (name : String) (_arguments : List String) : Except LaunchError (List Completion) :=
  match ofName? name with
  | none => .error (.unsupportedSubCommand name)
  | some _ => .ok []

end SlashCommand

end ServerLaunch
