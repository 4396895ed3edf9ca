import ServerLaunch.Machine
import ServerLaunch.Version

/-!
# Package sources

Where packages come from: what the latest version of a package is, how a version gets
into a directory, and which version is there. A source may do anything to the world
while it is asked, and it may fail in any way; whoever uses one has to cope.

## Main definitions

* `PackageSource`: the three questions.
* `PackageSource.recorded`: a source whose calls can be seen.
-/
namespace ServerLaunch

/-- A source of packages with a memory of type `σ`. -/
structure PackageSource (σ : Type) where
  /-- The latest version of a package. -/
  latest : String → Action (World σ) Version
  /-- Install a version of a package under a directory. -/
  install : String → Version → String → Action (World σ) Unit
  /-- The version of a package that is installed under a directory. -/
  installed? : String → String → Action (World σ) (Option Version)

namespace PackageSource

variable {σ : Type}

/-- The same source, each call seen as an event before it is carried out. -/
def recorded (source : PackageSource σ) : PackageSource σ where
  latest package := do
    .emit (.latest package)
    source.latest package
  install package version directory := do
    .emit (.install package version directory)
    source.install package version directory
  installed? package directory := do
    .emit (.installed package directory)
    source.installed? package directory

end PackageSource

end ServerLaunch
