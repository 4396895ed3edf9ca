import ServerLaunch.Package.Manifest

/-!
# The package manager

Installing packages with npm. The installer runs in the directory that gets the package
and leaves the files of the project alone. Whatever keeps it from ending well is a flaw
of the installation with what there is to say about it.

## Main definitions

* `InstallFlaw`: why an installation fails.
* `Npm`: the installer, with the choices that can be set.
* `Npm.install`: the installation.
* `Npm.source`: a registry and an installer as a package source.
-/
namespace ServerLaunch

/-- Why an installation fails: no installer, no cache directory for it, it does not start,
or it ends with a code. -/
inductive InstallFlaw where
  | noInstaller
  | noCache (fault : Fault)
  | notStarted (fault : Fault)
  | exited (code : Int) (complaint : String)
deriving DecidableEq, Repr

namespace InstallFlaw

/-- The report of a flaw. -/
def report : InstallFlaw → String
  | noInstaller => "npm not found on PATH. Please install Node.js and npm"
  | noCache fault => "could not create npm cache dir: " ++ fault.message
  | notStarted fault => "could not run npm: " ++ fault.message
  | exited code complaint => "npm exited with code " ++ toString code ++ ": " ++ complaint

/-- The fault that a flaw stands for. -/
def cause? : InstallFlaw → Option Fault
  | noCache fault => some fault
  | notStarted fault => some fault
  | _ => none

/-- The failure of an installation. -/
def toFailure (package : String) (version : Version) (flaw : InstallFlaw) : Failure :=
  .launch (.install package version flaw.report flaw.cause?)

end InstallFlaw

/-- The lines of a complaint that are kept. -/
def complaintLines : Nat := 10

/-- What is kept of a complaint: its last lines, blank space around it left away. -/
def complaintTail (complaint? : Option String) : String :=
  Text.lastLines complaintLines (Text.trim (complaint?.getD ""))

/-- The directory where installers keep what they have fetched. -/
def Machine.cacheDir (m : Machine) : Path := (Path.ofText m.userCache).child "npm"

/-- Make the cache directory if it is missing, and give its path. -/
def World.makeCacheDir {σ : Type} : Action (World σ) Path := do
  let path ← World.view Machine.cacheDir
  let depth ← World.view (·.depths.directories)
  World.changeFiles (·.makeDirectories depth path)
  pure path

/-- The installer: its program and its cache directory, where they are set. -/
structure Npm where
  program? : Option String := none
  cacheDir? : Option Path := none
deriving DecidableEq, Repr

namespace Npm

variable {σ : Type}

/-- The name of the installer's program. -/
def programName : String := "npm"

/-- The installer's program: the one that is set, or the one on the search path of the
process. -/
def find? (npm : Npm) (m : Machine) : Option String :=
  (npm.program?.filter (· != "")).or (m.program? programName)

/-- The arguments for installing a version of a package under a directory. -/
def arguments (program cache package : String) (version : Version) (directory : String) :
    List String :=
  [program, "install", "--prefix", directory, "--no-save", "--cache", cache,
    package ++ "@" ++ version.text]

/-- What a failure is to the caller: a report of the system becomes the flaw that it causes,
and anything else is passed on. -/
def explain (package : String) (version : Version) (flaw : Fault → InstallFlaw) : Failure → Failure
  | .fault fault =>
    if fault.isSystem then (flaw fault).toFailure package version else .fault fault
  | failure => failure

/-- The cache directory that is used. -/
def useCacheDir (npm : Npm) : Action (World σ) Path :=
  match npm.cacheDir? with
  | some path => pure path
  | none => World.makeCacheDir

/-- Install a version of a package under a directory. -/
def install (npm : Npm) (package : String) (version : Version) (directory : String) :
    Action (World σ) Unit := do
  match ← World.view npm.find? with
  | none => .fail (InstallFlaw.noInstaller.toFailure package version)
  | some program =>
    let cache ← npm.useCacheDir.mapFailure (explain package version .noCache)
    let arguments := arguments program cache.text package version directory
    let exit ← (World.process arguments directory).mapFailure
      (explain package version .notStarted)
    if exit.code ≠ 0 then
      let flaw := InstallFlaw.exited exit.code (complaintTail exit.complaint?)
      .fail (flaw.toFailure package version)

/-- Packages from a registry, installed by npm. -/
def source (registry : Registry) (npm : Npm) : PackageSource σ where
  latest := registry.latest
  install := npm.install
  installed? package directory := World.inspect fun m => Manifest.installed? m package directory

end Npm

end ServerLaunch
