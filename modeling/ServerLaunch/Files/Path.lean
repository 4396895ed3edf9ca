import ServerLaunch.Text.Split

/-!
# Paths

Paths as they are written: names separated by slashes, relative or from a root.
Repeated slashes, single dots and a slash at the end mean nothing and are dropped; two
dots stay, since what they mean depends on the links on the way. Exactly two slashes
in front are a root of their own.

## Main definitions

* `Path`: a root, if any, and names.
* `Path.ofText`, `Path.text`: reading and writing.
* `Path.join`: a path seen from another.
* `Path.collapse`: two dots cancelled against the name before them.
-/
namespace ServerLaunch

/-- Where a path starts. -/
inductive Path.Root where
  | relative
  | root
  | doubleRoot
deriving DecidableEq, Repr

/-- A path: where it starts and the names from there. -/
structure Path where
  start : Path.Root
  names : List String
deriving DecidableEq, Repr

namespace Path

/-- The names of a path, as they stand between its slashes. -/
def rawNames (text : String) : List String := Text.split '/' text

/-- A name that means nothing: the empty one and the single dot. -/
def isVoid (name : String) : Bool := name == "" || name == "."

/-- Where the path that a text writes starts. -/
def startOf : List Char → Root
  | '/' :: '/' :: '/' :: _ => .root
  | '/' :: '/' :: _ => .doubleRoot
  | '/' :: _ => .root
  | _ => .relative

/-- The path that a text writes. -/
def ofText (text : String) : Path :=
  { start := startOf text.toList
    names := (rawNames text).filter fun name => !isVoid name }

/-- The slashes in front of the names. -/
def Root.text : Root → String
  | relative => ""
  | root => "/"
  | doubleRoot => "//"

/-- The text of a path; the path of no names from nowhere is a dot. -/
def text (p : Path) : String :=
  if p.start = .relative ∧ p.names = [] then "."
  else p.start.text ++ String.intercalate "/" p.names

/-- Whether the path means the same from every directory. -/
def isAbsolute (p : Path) : Bool := p.start != .relative

/-- The path `q` seen from `p`. -/
def join (p q : Path) : Path :=
  if q.isAbsolute then q else { p with names := p.names ++ q.names }

/-- A path given by its text, seen from `p`. -/
def joinText (p : Path) (text : String) : Path := p.join (ofText text)

/-- A name below `p`. -/
def child (p : Path) (name : String) : Path := { p with names := p.names ++ [name] }

/-- The path without its last name. -/
def parent (p : Path) : Path := { p with names := p.names.dropLast }

/-- One step up. From nowhere, or from above, that is one more pair of dots; the root
stays. -/
def up (p : Path) : Path :=
  if p.start = .relative ∧ (p.names = [] ∨ p.names.getLast? = some "..") then p.child ".."
  else p.parent

/-- Every pair of dots cancelled against the name before it. -/
def collapse (p : Path) : Path :=
  p.names.foldl (fun q name => if name = ".." then q.up else q.child name) { p with names := [] }

theorem isAbsolute_join (p q : Path) : (p.join q).isAbsolute = (p.isAbsolute || q.isAbsolute) := by
  unfold join
  split <;> simp_all [isAbsolute]

end Path

end ServerLaunch
