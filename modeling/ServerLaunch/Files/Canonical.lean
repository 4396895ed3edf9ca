import ServerLaunch.Files.Disk

/-!
# Canonical paths

The absolute path without links that a path stands for. The path is walked from the
left; a link is replaced by the walk of its target, and two dots undo the name before
them at the place that has been reached. A strict walk demands that everything on the
way exists and reports the first name that does not; a lenient one takes a missing
name as a plain one.

A link that is met again while its own target is being walked is a loop. The strict
walk reports what the system says about following it; the lenient one stops there,
keeps the rest of the path as it is written, and reports a loop only if following the
result really goes round.

## Main definitions

* `Visits`: the links that a walk has met, and where they led.
* `Disk.walkPath`: the walk.
* `Disk.canonical`: the canonical path, strict or lenient.
-/
namespace ServerLaunch

/-- The links that a walk has met: where each one led, or `none` while it is being walked. -/
abbrev Visits := List (Path × Option Path)

/-- How a walk ends before the end of the path. -/
inductive WalkStop where
  | fault (fault : Fault)
  | loop (left : Path)

/-- The path that a walk reached, with the links it has met. -/
abbrev WalkResult := Except WalkStop (Path × Visits)

namespace Disk

/-- The report of a loop of links at a path. -/
def loopFault (path : String) : Fault := .runtime ("Symlink loop from " ++ Text.quote path)

/-- The fault of links nested too deeply. -/
def tooManyOpen : Fault := .tooDeep Fault.nestingReport

/-- The report of a failed step of a strict walk; running out of links is a loop. -/
def strictFault : Fault → Fault
  | .os (.failed number (some path)) =>
    if number = .tooManyLinks then loopFault path else .os (.failed number (some path))
  | fault => fault

/-- The rest of a path, as it is written, seen from where the walk stopped. -/
def withRest (path : Path) (rest : List String) : Path :=
  path.joinText (String.intercalate "/" rest)

/-- Walk names from the place reached, handing over to `onLink` with the place, the path
of the link and its target when the next name is a link. -/
def walkPathNames (disk : Disk) (strict : Bool)
    (onLink : Visits → Path → Path → String → WalkResult) :
    Visits → Path → List String → WalkResult
  | visits, path, [] => .ok (path, visits)
  | visits, path, name :: rest =>
    if Path.isVoid name then disk.walkPathNames strict onLink visits path rest
    else if name = ".." then disk.walkPathNames strict onLink visits path.up rest
    else
      match disk.lstat (path.child name).text with
      | .error fault =>
        if strict || !fault.isSystem then .error (.fault (strictFault fault))
        else disk.walkPathNames strict onLink visits (path.child name) rest
      | .ok (.link target) =>
        match onLink visits path (path.child name) target with
        | .ok (reached, visits') => disk.walkPathNames strict onLink visits' reached rest
        | .error (.loop left) => .error (.loop (withRest left rest))
        | .error stop => .error stop
      | .ok _ => disk.walkPathNames strict onLink visits (path.child name) rest

/-- The place from which a target is walked: the root for an absolute one. -/
def walkStart (path : Path) (target : String) : Path :=
  if (Path.ofText target).isAbsolute then ⟨.root, []⟩ else path

/-- How a walk stops at a link that is being walked already. -/
def closeLoop (disk : Disk) (strict : Bool) (link : Path) : WalkStop :=
  if strict then
    match disk.stat link.text with
    | .error fault => .fault (strictFault fault)
    | .ok _ => .fault tooManyOpen
  else .loop link

/-- Walk the text of a path from the place reached, with fewer than `depth` links open inside
one another. -/
def walkPath (disk : Disk) (strict : Bool) :
    Nat → Visits → Path → String → WalkResult
  | 0, _, _, _ => .error (.fault tooManyOpen)
  | depth + 1, visits, path, text =>
    disk.walkPathNames strict
      (fun visits path link target =>
        match visits.lookup link with
        | some (some reached) => .ok (reached, visits)
        | some none => .error (disk.closeLoop strict link)
        | none =>
          match disk.walkPath strict depth ((link, none) :: visits) path target with
          | .ok (reached, visits') => .ok (reached, (link, some reached) :: visits')
          | .error stop => .error stop)
      visits (walkStart path text) (Path.rawNames text)

/-- The path from the root that a path means here, two dots cancelled as they are
written. There is none in a working directory that was removed. -/
def absolute (disk : Disk) (path : Path) : Except Fault Path :=
  if path.isAbsolute then .ok path.collapse
  else if disk.workingDir.lost = 0 then
    .ok (Path.join ⟨.root, disk.workingDir.location.reverse⟩ path).collapse
  else .error (.os (.failed .noEntry none))

/-- A lenient result, unless following it goes round or cannot even be tried. -/
def checkLoop (disk : Disk) (path : Path) : Except Fault Path :=
  match disk.stat path.text with
  | .ok _ => .ok path
  | .error (.os (.failed number _)) =>
    if number = .tooManyLinks then .error (loopFault path.text) else .ok path
  | .error fault => .error fault

/-- The canonical path that a text stands for, found with at most `depth` links open inside one
another. -/
def canonical (disk : Disk) (depth : Nat) (strict : Bool) (text : String) : Except Fault Path :=
  match disk.walkPath strict (depth + 1) [] ⟨.relative, []⟩ (Path.ofText text).text with
  | .ok (path, _) =>
    if strict then disk.absolute path else (disk.absolute path).bind disk.checkLoop
  | .error (.loop left) => (disk.absolute left).bind disk.checkLoop
  | .error (.fault fault) => .error fault

end Disk

end ServerLaunch
