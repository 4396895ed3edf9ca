import ServerLaunch.Fault
import ServerLaunch.Files.Path
import ServerLaunch.Files.Tree

/-!
# Look-up

Following a path through a file tree, from a working directory if the path is
relative. Links on the way are followed, up to `linkLimit` of them; a link at the very
end is followed or not, as the caller asks. Every name but the last must lead to a
directory, and a slash or dot at the end counts as one more name.

The reader owns the files, so the permissions of an owner decide what may be run and
what may be read. Every directory may be searched.

A working directory that is removed stays in use: nothing can be found or made in it,
but the way up from it is still open.

## Main definitions

* `Place`: where a walk stands, possibly in a removed directory.
* `Disk`: a file tree seen from a working directory.
* `Disk.locate`: the place that a path leads to.
* `Disk.stat`, `Disk.lstat`: the entry there.
* `Disk.isFile`, `Disk.isDirectory`, `Disk.isLink`, `Disk.isThere`: questions that take
  nothing there for a no and let every other failure through.
* `Disk.holdsFile`, `Disk.holdsProgram`: questions that take every failure for a no.
-/
namespace ServerLaunch

/-- The most links that may be followed on the way. -/
def linkLimit : Nat := 40

/-- The most octets that a name may have. -/
def nameLimit : Nat := 255

/-- The octets at which a path becomes too long. -/
def pathLimit : Nat := 4096

/-- Where a walk stands: a location, of which the nearest `lost` names belong to directories
that were removed. -/
structure Place where
  location : Location
  lost : Nat
deriving DecidableEq, Repr

namespace Place

/-- A location where nothing was removed. -/
def ofLocation (location : Location) : Place := ⟨location, 0⟩

/-- The directory above; the root is above itself. -/
def up (place : Place) : Place := ⟨place.location.tail, place.lost - 1⟩

/-- The place after a location and everything below it were removed. -/
def afterErase (place : Place) (erased : Location) : Place :=
  if erased.isSuffixOf place.location then
    { place with lost := max place.lost (place.location.length - erased.length + 1) }
  else place

end Place

namespace FileTree

/-- What stands at a place; a removed directory is still one. -/
def entryOn (tree : FileTree) (place : Place) : Option Entry :=
  if place.lost = 0 then tree.get? place.location else some .directory

/-- Follow names from a directory, handing over to `onLink` with the target, the place and
the names still to go when a link has to be followed. -/
def walkNames (tree : FileTree) (followLast : Bool)
    (onLink : String → Place → List String → Except Errno Place) :
    Place → List String → Except Errno Place
  | here, [] => .ok here
  | here, name :: rest =>
    if Path.isVoid name then tree.walkNames followLast onLink here rest
    else if name = ".." then tree.walkNames followLast onLink here.up rest
    else if here.lost ≠ 0 then .error .noEntry
    else if nameLimit < name.utf8ByteSize then .error .nameTooLong
    else
      let next := Place.ofLocation (name :: here.location)
      match tree.get? next.location with
      | none => .error .noEntry
      | some .directory => tree.walkNames followLast onLink next rest
      | some (.file _ _) => if rest = [] then .ok next else .error .notDirectory
      | some (.link target) =>
        if rest = [] && !followLast then .ok next else onLink target here rest

/-- The directory from which the target of a link in `here` is followed. -/
def linkStart (target : String) (here : Place) : Place :=
  if (Path.ofText target).isAbsolute then .ofLocation [] else here

/-- Follow names from a directory with at most `links` links on the way. -/
def walk (tree : FileTree) (followLast : Bool) :
    Nat → Place → List String → Except Errno Place
  | 0 => tree.walkNames followLast fun _ _ _ => .error .tooManyLinks
  | links + 1 => tree.walkNames followLast fun target here rest =>
      tree.walk followLast links (linkStart target here) (Path.rawNames target ++ rest)

end FileTree

/-- A file tree seen from a working directory. -/
structure Disk where
  tree : FileTree
  workingDir : Place
deriving DecidableEq, Repr

namespace Disk

variable (disk : Disk)

/-- The directory that a path is followed from. -/
def startOf (path : Path) : Place :=
  if path.isAbsolute then .ofLocation [] else disk.workingDir

/-- The place that the text of a path leads to. -/
def locate (followLast : Bool) (text : String) : Except Errno Place :=
  if text = "" then .error .noEntry
  else if pathLimit ≤ text.utf8ByteSize then .error .nameTooLong
  else disk.tree.walk followLast linkLimit (disk.startOf (.ofText text)) (Path.rawNames text)

/-- The entry that the text of a path leads to. -/
def entryAt (followLast : Bool) (text : String) : Except Fault Entry :=
  if text.toList.contains '\x00' then .error .nulInPath
  else
    match disk.locate followLast text with
    | .error e => .error (.onPath e text)
    | .ok place =>
      match disk.tree.entryOn place with
      | some entry => .ok entry
      | none => .error (.onPath .noEntry text)

/-- The entry at a path, links followed to the end. -/
def stat (text : String) : Except Fault Entry := disk.entryAt true text

/-- The entry at a path, a link at the end left as it is. -/
def lstat (text : String) : Except Fault Entry := disk.entryAt false text

/-- The answer of a test on the entry that was looked up. That nothing is there, or nothing
can be, is a no; any other failure is passed on. -/
def answer (test : Entry → Bool) : Except Fault Entry → Except Fault Bool
  | .ok entry => .ok (test entry)
  | .error (.os (.failed number path?)) =>
    if number.meansAbsent then .ok false else .error (.os (.failed number path?))
  | .error (.value _) => .ok false
  | .error fault => .error fault

/-- Whether a path leads to a regular file. -/
def isFile (path : Path) : Except Fault Bool := answer Entry.isFile (disk.stat path.text)

/-- Whether a path leads to a directory. -/
def isDirectory (path : Path) : Except Fault Bool := answer Entry.isDirectory (disk.stat path.text)

/-- Whether a link stands at a path. -/
def isLink (path : Path) : Except Fault Bool := answer Entry.isLink (disk.lstat path.text)

/-- Whether a path leads to anything. -/
def isThere (path : Path) : Except Fault Bool := answer (fun _ => true) (disk.stat path.text)

/-- Whether what stands at a path passes the test, every failure being a no. -/
def holds (test : Entry → Bool) (text : String) : Bool :=
  match disk.stat text with
  | .ok entry => test entry
  | .error _ => false

/-- Whether the text of a path leads to a regular file. -/
def holdsFile (text : String) : Bool := disk.holds Entry.isFile text

/-- Whether the text of a path leads to a regular file that may be run. -/
def holdsProgram (text : String) : Bool := disk.holds Entry.isProgram text

/-- The content of the file at a path, if it may be read. -/
def content? (path : Path) : Option (List UInt8) :=
  match disk.stat path.text with
  | .ok entry => entry.content?
  | .error _ => none

end Disk

end ServerLaunch
