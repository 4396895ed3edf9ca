import ServerLaunch.Package.Registry

/-!
# Package manifests

Reading the version of an installed package from its manifest. A manifest that cannot be
read or understood states no version; only one that is nested too deeply is a fault.

## Main definitions

* `Manifest.path`: where the manifest of a package lies.
* `Manifest.version?`: the version that a manifest states.
* `Manifest.installed?`: the version of a package installed under a directory.
-/
namespace ServerLaunch.Manifest

/-- Where the manifest of a package installed under a directory lies. -/
def path (package directory : String) : Path :=
  (((Path.ofText directory).child "node_modules").joinText package).child "package.json"

/-- The version that the octets of a manifest state, nested at most `depth` deep. They have to
be well-formed UTF-8; line ends of any kind are the same. -/
def version? (depth : Nat) (octets : List UInt8) : Except Fault (Option Version) :=
  match Text.Utf8.decode? octets with
  | none => .ok none
  | some text =>
    match Json.ofText depth (Text.unifyNewlines text) with
    | .ok document => .ok document.version?
    | .error fault => if fault.isValueFault then .ok none else .error fault

/-- The version of a package installed under a directory. -/
def installed? (m : Machine) (package directory : String) : Except Fault (Option Version) := do
  let manifest := path package directory
  if ← m.disk.isFile manifest then
    match m.disk.content? manifest with
    | some octets => version? m.depths.documents octets
    | none => return none
  else return none

end ServerLaunch.Manifest
