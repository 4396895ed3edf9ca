import ServerLaunch.Package.Source

/-!
# Canned packages

A package source that answers from memory. Its answers are put on a shelf beforehand
and may be changed at any time; installing from it makes the files that were prepared
and remembers the version.

## Main definitions

* `Canned`: the answers of one source.
* `Shelf`: the answers of several, by name.
* `Canned.source`: the package source of a name.
-/
namespace ServerLaunch

/-- The answers of a source. -/
structure Canned where
  latest : Version := .ofText "1.10.4"
  latestFailure? : Option Failure := none
  installFailure? : Option Failure := none
  installEdits : List FileEdit := []
  remembersVersion : Bool := true
  installed? : Option Version := none
deriving DecidableEq, Repr

/-- The answers of several sources. -/
abbrev Shelf := List (String × Canned)

namespace Shelf

/-- The answers under a name. -/
def answers (shelf : Shelf) (name : String) : Canned := (shelf.lookup name).getD {}

/-- The shelf with other answers under a name. -/
def store (shelf : Shelf) (name : String) (canned : Canned) : Shelf :=
  (name, canned) :: shelf.filter (·.1 != name)

/-- What was stored is found. -/
@[simp] theorem answers_store_self (shelf : Shelf) (name : String) (canned : Canned) :
    (shelf.store name canned).answers name = canned := by
  simp [store, answers]

end Shelf

namespace Canned

/-- The outcome of a call that may have been told to fail. -/
def unlessFailure {α : Type} (failure? : Option Failure) (value : α) : Except Failure α :=
  match failure? with
  | some failure => .error failure
  | none => .ok value

/-- The source of a name, without its calls being seen. -/
def silentSource (name : String) : PackageSource Shelf where
  latest _ := .observe fun w =>
    let canned := w.memory.answers name
    unlessFailure canned.latestFailure? canned.latest
  install _ version _ := do
    let canned ← .observe fun w =>
      let canned := w.memory.answers name
      unlessFailure canned.installFailure? canned
    World.changeFiles (·.editAll canned.installEdits)
    if canned.remembersVersion then
      .update fun w =>
        { w with memory := w.memory.store name { canned with installed? := some version } }
  installed? _ _ := .observe fun w => .ok (w.memory.answers name).installed?

/-- The source of a name, each call seen. -/
def source (name : String) : PackageSource Shelf := (silentSource name).recorded

end Canned

end ServerLaunch
