import ServerLaunch.Proofs.Directories
import ServerLaunch.Proofs.Installing
import ServerLaunch.Proofs.Partners
import ServerLaunch.Proofs.Straight

/-!
# A working directory that stays seated

The working directory of a disk is one of its tree, or it was removed and the disk knows that.
Files come and go in two ways only: an entry is put where nothing stands, or a location is erased
with everything below it. Neither unseats the working directory, and a launch changes files in no
other way, be it by making a cache directory or through the installer that it runs.

## Main definitions

* `Disk.Edited`: a disk came from another one by entries that were put and erased.

**Main statements.** What comes from a seated disk is seated (`Edited.seated`), every change of
files is made of such steps (`edited_editAll`), and a launch leaves a seated disk seated
(`Extension.seated_command`).
-/
namespace ServerLaunch

/-- A place stays where it is when something is erased, if only as one that was removed. -/
@[simp] theorem Place.location_afterErase (place : Place) (erased : Location) :
    (place.afterErase erased).location = place.location := by
  unfold afterErase
  split <;> rfl

namespace Disk

variable {disk disk' disk'' : Disk} {path : Path} {location : Location} {entry : Entry}

/-! ## Two ways to change a disk -/

/-- A working directory stays seated in a tree that holds more. -/
theorem Seated.of_within (seated : disk.Seated) (home : disk'.workingDir = disk.workingDir)
    (within : disk.tree.Within disk'.tree) : disk'.Seated where
  named := home ▸ seated.named
  stands there above higher := by
    rw [home] at there higher
    exact within _ _ (seated.stands there above higher)

/-- A working directory that was not erased lies below nothing that was. -/
theorem Seated.erase (seated : disk.Seated) (location : Location) :
    (disk.erase location).Seated where
  named := by simpa [Disk.erase] using seated.named
  stands there above higher := by
    have kept : ¬ location <:+ disk.workingDir.location := by
      intro inside
      simp [Disk.erase, Place.afterErase, inside] at there
    have same : (disk.erase location).workingDir = disk.workingDir := by
      simp [Disk.erase, Place.afterErase, kept]
    rw [same] at there higher
    have apart : ¬ location <:+ above := fun below => kept (below.trans higher)
    exact (FileTree.get?_erase_of_not_suffix _ apart).trans (seated.stands there above higher)

/-- A disk came from another one by entries that were put where nothing stood, and by locations
that were erased. -/
inductive Edited (disk : Disk) : Disk → Prop
  | refl : Edited disk disk
  | put {disk' : Disk} {location : Location} {entry : Entry} (before : Edited disk disk')
      (vacant : disk'.tree.get? location = none) : Edited disk (disk'.put location entry)
  | erase {disk' : Disk} (before : Edited disk disk') (location : Location) :
      Edited disk (disk'.erase location)

theorem Edited.trans (first : disk.Edited disk') (second : disk'.Edited disk'') :
    disk.Edited disk'' := by
  induction second with
  | refl => exact first
  | put _ vacant ih => exact .put ih vacant
  | erase _ location ih => exact .erase ih location

/-- **What comes from a seated disk is seated.** -/
theorem Edited.seated (h : disk.Edited disk') (seated : disk.Seated) : disk'.Seated := by
  induction h with
  | refl => exact seated
  | put _ vacant ih => exact ih.of_within rfl (within_put vacant)
  | erase _ location ih => exact ih.erase location

/-! ## What changes of files are made of -/

theorem edited_make (h : disk.make path entry = .ok disk') : disk.Edited disk' := by
  obtain ⟨location, -, vacant, rfl⟩ := make_eq_ok h
  exact .put .refl vacant

/-- A directory is made, its missing parents first; the names come last first. -/
theorem edited_makeNames (start : Path.Root) (depth : Nat) (names : List String) :
    disk.Edited (disk.makeNames start depth names).2 := by
  induction depth generalizing names with
  | zero => exact .refl
  | succ depth ih =>
    cases names with
    | nil =>
      unfold makeNames
      dsimp only
      split
      · next made => exact edited_make made
      · split <;> exact .refl
    | cons name above =>
      unfold makeNames
      dsimp only
      split
      · next made => exact edited_make made
      · split
        · have parents := ih above
          split
          · next seen => rwa [seen] at parents
          · next seen =>
            rw [seen] at parents
            split
            · next made => exact parents.trans (edited_make made)
            · split <;> exact parents
        · exact .refl

theorem edited_makeDirectories (depth : Nat) (path : Path) :
    disk.Edited (disk.makeDirectories depth path).2 := by
  unfold makeDirectories
  split
  · exact .refl
  · exact edited_makeNames ..

theorem edited_unlink (h : disk.unlink path = .ok disk') : disk.Edited disk' := by
  unfold unlink at h
  split at h
  · cases h
  · split at h
    · cases h
    · cases h
    · cases h
      exact .erase .refl _

theorem edited_clear (h : disk.clear path = .ok disk') : disk.Edited disk' := by
  obtain ⟨taken, -, cleared⟩ := bind_eq_ok h
  cases taken with
  | true => exact edited_unlink cleared
  | false =>
    cases cleared
    exact .refl

theorem edited_removeDirectory (path : Path) : disk.Edited (disk.removeDirectory path) := by
  unfold removeDirectory
  split
  · split
    · exact .erase .refl _
    · exact .refl
  · exact .refl

theorem edited_remove (h : disk.remove path = .ok disk') : disk.Edited disk' := by
  obtain ⟨directory, -, removed⟩ := bind_eq_ok h
  cases directory with
  | true =>
    cases removed
    exact edited_removeDirectory path
  | false => exact edited_clear removed

theorem edited_writeFile {content : List UInt8} {mode : Nat}
    (h : disk.writeFile path content mode = .ok disk') : disk.Edited disk' := by
  unfold writeFile at h
  split at h
  · cases h
  · exact edited_make (mapError_eq_ok h)

theorem edited_writeLink {target : String} (h : disk.writeLink path target = .ok disk') :
    disk.Edited disk' := by
  unfold writeLink at h
  split at h
  · cases h
  · have linked := mapError_eq_ok h
    unfold makeLink at linked
    split at linked
    · cases linked
    · split at linked
      · cases linked
      · exact edited_make linked

/-- Whatever is written in place of what stands at a path, the way to it was made and the place
cleared. -/
theorem edited_replace {write : Disk → Except Fault Disk}
    (writes : ∀ {before after : Disk}, write before = .ok after → before.Edited after) :
    disk.Edited (disk.replace path write).2 := by
  unfold replace
  split
  · exact .refl
  · exact .refl
  · have way : disk.Edited (disk.makeAllDirectories path.parent).2 := edited_makeDirectories ..
    split
    · next seen => rwa [seen] at way
    · next seen =>
      rw [seen] at way
      split
      · exact way
      · next cleared =>
        have free := way.trans (edited_clear cleared)
        split
        · exact free
        · next written => exact free.trans (writes written)

/-- One change of files. -/
theorem edited_edit (disk : Disk) (change : FileEdit) : disk.Edited (disk.edit change).2 := by
  cases change with
  | remove path =>
    unfold edit
    dsimp only
    split
    · next removed => exact edited_remove removed
    · exact .refl
  | directory path => exact edited_makeDirectories ..
  | link path target => exact edited_replace edited_writeLink
  | file path content mode => exact edited_replace edited_writeFile

/-- **Changes of files are made of entries that are put and erased**, up to the first change that
fails. -/
theorem edited_editAll (disk : Disk) (changes : List FileEdit) :
    disk.Edited (disk.editAll changes).2 := by
  induction changes generalizing disk with
  | nil => exact .refl
  | cons change rest ih =>
    have first := disk.edited_edit change
    unfold editAll
    split
    · next done =>
      rw [done] at first
      exact first.trans (ih _)
    · next done => rwa [done] at first

end Disk

/-- A process leaves the files that it changed. -/
theorem Ending.edited_effect (ending : Ending) (disk : Disk) :
    disk.Edited (ending.effect disk).2 := by
  cases ending with
  | refused fault => exact .refl
  | ends exit edits =>
    have edited := disk.edited_editAll edits
    rw [effect]
    split
    · next done => rwa [done] at edited
    · next done => rwa [done] at edited

/-! ## Launches -/

variable {σ : Type}

/-- The working directory of a world is seated. -/
def World.Seated (w : World σ) : Prop := w.disk.Seated

namespace Npm

variable (registry : Registry) (npm : Npm)

/-- The cache directory is seen to by making directories at most. -/
theorem edited_cacheOn (m : Machine) : m.disk.Edited (npm.cacheOn m).2 := by
  unfold cacheOn
  split
  · exact .refl
  · exact Disk.edited_makeDirectories ..

theorem seated_latest (package : String) :
    ((source registry npm).latest package : Action (World σ) Version).Keeps World.Seated := by
  intro w seated
  have asked : ((source registry npm).latest package).run w = _ := registry.run_latest package w
  rw [asked]
  exact seated

theorem seated_installed? (package directory : String) :
    ((source registry npm).installed? package directory :
      Action (World σ) (Option Version)).Keeps World.Seated :=
  fun _ seated => seated

/-- An installation leaves a seated disk seated, wherever it stops. -/
theorem seated_install (package : String) (version : Version) (directory : String) :
    ((source registry npm).install package version directory :
      Action (World σ) Unit).Keeps World.Seated := by
  intro w seated
  have cached := (npm.edited_cacheOn w.toMachine).seated seated
  have installed := (npm.installed_iff package version directory w _).2 rfl
  change World.Seated ((npm.install package version directory).run w).final
  generalize (npm.install package version directory).run w = r at installed ⊢
  cases installed with
  | unequipped _ => exact seated
  | uncached _ seen => rwa [seen] at cached
  | broken _ seen ended | exited _ seen ended _ | done _ seen ended _ =>
    rw [seen] at cached
    have left := (w.nextEnding.edited_effect _).seated cached
    rwa [ended] at left

end Npm

namespace Extension

variable {e : Extension σ} {server : String} {workspace : Workspace}

/-- **A launch leaves a seated disk seated**, however it ends, if its packages come from a registry
by npm and its reporter does not unseat the working directory itself. -/
theorem seated_command {registry : Registry} {npm : Npm}
    (packages : e.source = Npm.source registry npm)
    (reports : ∀ status, (report e.reporter? server status).Keeps World.Seated) (s : Session σ)
    (seated : s.world.disk.Seated) :
    ((e.command server workspace).run s).final.world.disk.Seated := by
  have keeps : AskingKeeps server workspace e.source e.reporter? World.Seated := by
    rw [packages]
    exact ⟨reports, Npm.seated_latest _ _ _, Npm.seated_installed? _ _ _ _⟩
  have ensures {r : Run (Session σ) Path}
      (ensured : Ensured server workspace e.source e.reporter? s r) : r.final.world.Seated := by
    refine keeps.ensured (fun version => ?_) ensured seated
    rw [packages]
    exact Npm.seated_install _ _ _ _ _
  have launched := e.launched_run server workspace s
  generalize (e.command server workspace).run s = r at launched
  cases launched with
  | unknown _ | unseen _ _ | direct _ _ | bridged _ _ | notFound _ _ _ => exact seated
  | notProvisioned _ _ _ ensured | provisioned _ _ _ ensured => exact (ensures ensured :)

end Extension

end ServerLaunch
