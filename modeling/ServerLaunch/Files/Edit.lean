import ServerLaunch.Files.Disk

/-!
# Changes to a file tree

Making directories, and the edits by which a program leaves files behind. A change
that fails half way leaves what it did before: the outcome comes with the disk as it
stands then. An entry is put only where nothing stands, in a directory that is there.

An edit first asks what stands at its path. The question itself can fail, on a name that
is too long, and then nothing has been changed; a path that cannot be looked up at all
counts as free, and fails when something is put there.

## Main definitions

* `Disk.make`: an entry where there was none.
* `Disk.makeDirectories`: a directory with its missing parents.
* `Disk.replace`: a file or link in place of what stands at a path.
* `Disk.remove`: nothing at a path any more.
* `FileEdit`: one change to the files.
* `Disk.edit`, `Disk.editAll`: carrying changes out.
-/
namespace ServerLaunch

/-- One change to the files, by the text of a path. -/
inductive FileEdit where
  | remove (path : String)
  | directory (path : String)
  | link (path : String) (target : String)
  | file (path : String) (content : List UInt8) (mode : Nat)
deriving DecidableEq, Repr

namespace Disk

variable (disk : Disk)

/-- The directory that a path's last name lies in, and that name. A path without a last
name is taken already. -/
def slot (path : Path) : Except Errno Location := do
  if pathLimit ≤ path.text.utf8ByteSize then .error .nameTooLong
  let above ← disk.tree.walk true linkLimit (disk.startOf path) (path.names.dropLast ++ ["."])
  match path.names.getLast? with
  | none => .error .fileExists
  | some name =>
    if name = ".." then .error .fileExists
    else if above.lost ≠ 0 then .error .noEntry
    else if nameLimit < name.utf8ByteSize then .error .nameTooLong
    else .ok (name :: above.location)

/-- The disk with an entry at a location. -/
def put (location : Location) (entry : Entry) : Disk :=
  { disk with tree := disk.tree.put location entry }

/-- The disk without a location and everything below it. -/
def erase (location : Location) : Disk :=
  { tree := disk.tree.erase location
    workingDir := disk.workingDir.afterErase location }

/-- The disk with an entry at a location where nothing stands. -/
def putNew (location : Location) (entry : Entry) : Except Errno Disk :=
  match disk.tree.get? location with
  | some _ => .error .fileExists
  | none => .ok (disk.put location entry)

/-- Make an entry in a directory that exists. -/
def make (path : Path) (entry : Entry) : Except Errno Disk :=
  (disk.slot path).bind (disk.putNew · entry)

/-- Make one directory whose parent exists. -/
def makeDirectory (path : Path) : Except Errno Disk := disk.make path .directory

/-- The outcome of a failed attempt to make a directory: a success after all if one is
there. -/
def unlessDirectory (number : Errno) (path : Path) : Except Fault Unit :=
  match disk.isDirectory path with
  | .ok true => .ok ()
  | .ok false => .error (.onPath number path.text)
  | .error fault => .error fault

/-- The fault of more missing directories than can be made at once. -/
def tooManyMissing : Fault := .tooDeep (Fault.nestingReport ++ " while calling a Python object")

/-- Make the directory of names, last first, with at most `depth` missing parents. A parent
that was just made is not made again. -/
def makeNames (disk : Disk) (start : Path.Root) :
    Nat → List String → Except Fault Unit × Disk
  | 0, _ => (.error tooManyMissing, disk)
  | _ + 1, [] =>
    let path : Path := ⟨start, []⟩
    match disk.makeDirectory path with
    | .ok disk' => (.ok (), disk')
    | .error number =>
      if number = .noEntry then (.error (.onPath number path.text), disk)
      else (disk.unlessDirectory number path, disk)
  | depth + 1, name :: above =>
    let path : Path := ⟨start, (name :: above).reverse⟩
    match disk.makeDirectory path with
    | .ok disk' => (.ok (), disk')
    | .error number =>
      if number = .noEntry then
        match disk.makeNames start depth above with
        | (.error fault, disk') => (.error fault, disk')
        | (.ok (), disk') =>
          match disk'.makeDirectory path with
          | .ok disk'' => (.ok (), disk'')
          | .error number' =>
            if number' = .noEntry then (.error (.onPath number' path.text), disk')
            else (disk'.unlessDirectory number' path, disk')
      else (disk.unlessDirectory number path, disk)

/-- Make a directory with its missing parents, fewer than `depth` of them. A directory that is
there is left alone. -/
def makeDirectories (depth : Nat) (path : Path) : Except Fault Unit × Disk :=
  if path.text.toList.contains '\x00' then (.error .nulInPath, disk)
  else disk.makeNames path.start depth path.names.reverse

/-- Make a directory with all its missing parents. -/
def makeAllDirectories (path : Path) : Except Fault Unit × Disk :=
  disk.makeDirectories (path.names.length + 1) path

/-- Whether a directory itself, and no link to one, stands at a path. -/
def holdsDirectory (path : Path) : Except Fault Bool := do
  if ← disk.isDirectory path then return !(← disk.isLink path) else return false

/-- Whether a link stands at a path, or the path leads to anything. -/
def isTaken (path : Path) : Except Fault Bool := do
  if ← disk.isLink path then return true else disk.isThere path

/-- Remove the file or link at a path. -/
def unlink (path : Path) : Except Fault Disk :=
  match disk.locate false path.text with
  | .error number => .error (.onPath number path.text)
  | .ok place =>
    match disk.tree.entryOn place with
    | none => .error (.onPath .noEntry path.text)
    | some .directory => .error (.onPath .isDirectory path.text)
    | some _ => .ok (disk.erase place.location)

/-- Make room at a path by removing a file or link. -/
def clear (path : Path) : Except Fault Disk := do
  if ← disk.isTaken path then disk.unlink path else return disk

/-- Make a file where there is none. -/
def writeFile (path : Path) (content : List UInt8) (mode : Nat) : Except Fault Disk :=
  if path.text.toList.contains '\x00' then .error .nulInPath
  else (disk.make path (.file content mode)).mapError (.onPath · path.text)

/-- Make a link. The target must not be empty, and it is as limited in length as a path. -/
def makeLink (path : Path) (target : String) : Except Errno Disk :=
  if target = "" then .error .noEntry
  else if pathLimit ≤ target.utf8ByteSize then .error .nameTooLong
  else disk.make path (.link target)

/-- Make a link where there is none. -/
def writeLink (path : Path) (target : String) : Except Fault Disk :=
  if (target ++ path.text).toList.contains '\x00' then .error .nulInPath
  else (disk.makeLink path target).mapError fun number => .os (.notLinked number target path.text)

/-- Put something at a path with missing parents made, in place of a file or link. A directory
stays as it is. -/
def replace (path : Path) (write : Disk → Except Fault Disk) : Except Fault Unit × Disk :=
  match disk.holdsDirectory path with
  | .error fault => (.error fault, disk)
  | .ok true => (.ok (), disk)
  | .ok false =>
    match disk.makeAllDirectories path.parent with
    | (.error fault, disk') => (.error fault, disk')
    | (.ok (), disk') =>
      match disk'.clear path with
      | .error fault => (.error fault, disk')
      | .ok cleared =>
        match write cleared with
        | .error fault => (.error fault, cleared)
        | .ok disk'' => (.ok (), disk'')

/-- The disk without the directory at a path and everything below it. -/
def removeDirectory (path : Path) : Disk :=
  match disk.locate false path.text with
  | .ok place => if place.lost = 0 then disk.erase place.location else disk
  | .error _ => disk

/-- Remove what stands at a path: a directory with everything below it, and a link itself. -/
def remove (path : Path) : Except Fault Disk := do
  if ← disk.holdsDirectory path then return disk.removeDirectory path else disk.clear path

/-- Carry out one change. -/
def edit : FileEdit → Except Fault Unit × Disk
  | .remove path =>
    match disk.remove (.ofText path) with
    | .ok disk' => (.ok (), disk')
    | .error fault => (.error fault, disk)
  | .directory path => disk.makeAllDirectories (.ofText path)
  | .link path target => disk.replace (.ofText path) (·.writeLink (.ofText path) target)
  | .file path content mode => disk.replace (.ofText path) (·.writeFile (.ofText path) content mode)

/-- Carry out changes in order, up to the first that fails. -/
def editAll (disk : Disk) : List FileEdit → Except Fault Unit × Disk
  | [] => (.ok (), disk)
  | change :: rest =>
    match disk.edit change with
    | (.ok (), disk') => disk'.editAll rest
    | (.error fault, disk') => (.error fault, disk')

end Disk

end ServerLaunch
