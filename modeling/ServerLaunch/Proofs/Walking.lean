import ServerLaunch.Files.Disk
import ServerLaunch.Proofs.Paths

/-!
# Walks through a file tree

A path is followed name by name. A directory is entered, a link is replaced by the names of its
target as long as links may be followed, and a file ends the walk. The rules below say so without
the order in which the walk looks for what stops it. A walk that succeeds depends on the entries
that it meets and on nothing else of the tree, so it takes the same way in every tree that still
holds them.

## Main definitions

* `FileTree.Passes`: a name can be looked up in a place.
* `FileTree.Walked`: following names from a place leads to another, with at most so many links.
* `FileTree.Within`: what a tree holds is held by another one.

**Main statements.** The rules are the walks that succeed (`walk_eq_ok_iff`), and a tree that
holds more has the same ones (`Walked.mono`).
-/
namespace ServerLaunch

namespace FileTree

/-! ## One name -/

/-- A name can be looked up in a place: it says something and is not too long, and the place was
not removed. -/
structure Passes (name : String) (here : Place) : Prop where
  telling : Path.isVoid name = false
  down : name ≠ ".."
  there : here.lost = 0
  short : name.utf8ByteSize ≤ nameLimit

variable {tree tree' : FileTree} {followLast : Bool} {links : Nat} {here there : Place}
  {name target : String} {rest : List String}

/-- What is done with a link that has to be followed, if so many may be. -/
def follow (tree : FileTree) (followLast : Bool) :
    Nat → String → Place → List String → Except Errno Place
  | 0, _, _, _ => .error .tooManyLinks
  | links + 1, target, here, rest =>
    tree.walk followLast links (linkStart target here) (Path.rawNames target ++ rest)

theorem walk_eq (links : Nat) (here : Place) (names : List String) :
    tree.walk followLast links here names =
      tree.walkNames followLast (tree.follow followLast links) here names := by
  cases links <;> rfl

@[simp] theorem walk_nil : tree.walk followLast links here [] = .ok here := by
  rw [walk_eq, walkNames]

theorem walk_void (void : Path.isVoid name = true) :
    tree.walk followLast links here (name :: rest) = tree.walk followLast links here rest := by
  rw [walk_eq, walk_eq, walkNames, if_pos void]

theorem walk_up :
    tree.walk followLast links here (".." :: rest) = tree.walk followLast links here.up rest := by
  rw [walk_eq, walk_eq, walkNames, if_neg (by decide), if_pos rfl]

/-- A name that passes leads on as the entry there does. -/
theorem walk_passes (passes : Passes name here) :
    tree.walk followLast links here (name :: rest) =
      match tree.get? (name :: here.location) with
      | none => .error .noEntry
      | some .directory =>
        tree.walk followLast links (.ofLocation (name :: here.location)) rest
      | some (.file _ _) =>
        if rest = [] then .ok (.ofLocation (name :: here.location)) else .error .notDirectory
      | some (.link target) =>
        if rest = [] && !followLast then .ok (.ofLocation (name :: here.location))
        else tree.follow followLast links target here rest := by
  obtain ⟨telling, down, there, short⟩ := passes
  have enough := Nat.not_lt.2 short
  cases found : tree.get? (name :: here.location) with
  | none => simp [walk_eq, walkNames, telling, down, there, enough, Place.ofLocation, found]
  | some entry =>
    cases entry <;>
      simp [walk_eq, walkNames, telling, down, there, enough, Place.ofLocation, found]

/-- A name that says something and leads down is looked up, or the walk stops there. -/
theorem passes_of_walk (telling : Path.isVoid name = false) (down : name ≠ "..")
    (h : tree.walk followLast links here (name :: rest) = .ok there) : Passes name here := by
  rw [walk_eq, walkNames, if_neg (by simp [telling]), if_neg down] at h
  split at h
  · cases h
  · next lost =>
    split at h
    · cases h
    · next short => exact ⟨telling, down, Decidable.not_not.1 lost, Nat.not_lt.1 short⟩

/-! ## Walks that succeed -/

/-- Following names from a place leads to another, with at most so many links on the way. A link
at the end is followed only on demand. -/
inductive Walked (tree : FileTree) (followLast : Bool) :
    Nat → Place → List String → Place → Prop
  | done {links : Nat} {here : Place} : Walked tree followLast links here [] here
  | void {links : Nat} {here there : Place} {name : String} {rest : List String}
      (void : Path.isVoid name = true) (onward : Walked tree followLast links here rest there) :
      Walked tree followLast links here (name :: rest) there
  | up {links : Nat} {here there : Place} {rest : List String}
      (onward : Walked tree followLast links here.up rest there) :
      Walked tree followLast links here (".." :: rest) there
  | enter {links : Nat} {here there : Place} {name : String} {rest : List String}
      (passes : Passes name here) (found : tree.get? (name :: here.location) = some .directory)
      (onward : Walked tree followLast links (.ofLocation (name :: here.location)) rest there) :
      Walked tree followLast links here (name :: rest) there
  | file {links : Nat} {here : Place} {name : String} {content : List UInt8} {mode : Nat}
      (passes : Passes name here)
      (found : tree.get? (name :: here.location) = some (.file content mode)) :
      Walked tree followLast links here [name] (.ofLocation (name :: here.location))
  | link {links : Nat} {here : Place} {name target : String} (passes : Passes name here)
      (found : tree.get? (name :: here.location) = some (.link target))
      (left : followLast = false) :
      Walked tree followLast links here [name] (.ofLocation (name :: here.location))
  | follow {links : Nat} {here there : Place} {name target : String} {rest : List String}
      (passes : Passes name here)
      (found : tree.get? (name :: here.location) = some (.link target))
      (more : rest ≠ [] ∨ followLast = true)
      (onward : Walked tree followLast links (linkStart target here)
        (Path.rawNames target ++ rest) there) :
      Walked tree followLast (links + 1) here (name :: rest) there

theorem Walked.walk_eq {names : List String}
    (h : tree.Walked followLast links here names there) :
    tree.walk followLast links here names = .ok there := by
  induction h with
  | done => exact walk_nil
  | void void _ ih => rw [walk_void void, ih]
  | up _ ih => rw [walk_up, ih]
  | enter passes found _ ih =>
    rw [walk_passes passes, found]
    exact ih
  | file passes found => simp [walk_passes passes, found]
  | link passes found left => simp [walk_passes passes, found, left]
  | follow passes found more _ ih =>
    rw [walk_passes passes, found]
    rcases more with more | rfl
    · simpa [more, FileTree.follow] using ih
    · simpa [FileTree.follow] using ih

theorem walked_of_walk {names : List String}
    (h : tree.walk followLast links here names = .ok there) :
    tree.Walked followLast links here names there := by
  induction links using Nat.strongRecOn generalizing here names with
  | ind links below =>
  induction names generalizing here with
  | nil =>
    rw [walk_nil] at h
    cases h
    exact .done
  | cons name rest ih =>
    cases void : Path.isVoid name with
    | true =>
      rw [walk_void void] at h
      exact .void void (ih h)
    | false =>
      by_cases up : name = ".."
      · subst up
        rw [walk_up] at h
        exact .up (ih h)
      · have passes := passes_of_walk void up h
        rw [walk_passes passes] at h
        split at h
        · cases h
        · next found => exact .enter passes found (ih h)
        · next found =>
          split at h
          · next last =>
            cases h
            exact last ▸ .file passes found
          · cases h
        · next target found =>
          split at h
          · next last =>
            rw [Bool.and_eq_true, decide_eq_true_eq, Bool.not_eq_true'] at last
            cases h
            exact last.1 ▸ .link passes found last.2
          · next more =>
            have more : rest ≠ [] ∨ followLast = true := by
              cases followLast <;> simp_all
            cases links with
            | zero => cases h
            | succ links => exact .follow passes found more (below links (Nat.lt_succ_self _) h)

/-- The rules are the walks that succeed. -/
theorem walk_eq_ok_iff {names : List String} :
    tree.walk followLast links here names = .ok there ↔
      tree.Walked followLast links here names there :=
  ⟨walked_of_walk, Walked.walk_eq⟩

/-- Void names in front mean nothing. -/
theorem walk_voids_append {voids names : List String}
    (void : ∀ name ∈ voids, Path.isVoid name = true) :
    tree.walk followLast links here (voids ++ names) =
      tree.walk followLast links here names := by
  induction voids with
  | nil => rfl
  | cons name rest ih =>
    rw [List.cons_append, walk_void (void name List.mem_cons_self),
      ih fun other listed => void other (List.mem_cons_of_mem _ listed)]

/-! ## Trees that hold more -/

/-- What a tree holds is held by another one. -/
def Within (tree tree' : FileTree) : Prop :=
  ∀ location entry, tree.get? location = some entry → tree'.get? location = some entry

/-- A walk that succeeds takes the same way in a tree that holds more. -/
theorem Walked.mono (within : tree.Within tree') {names : List String}
    (h : tree.Walked followLast links here names there) :
    tree'.Walked followLast links here names there := by
  induction h with
  | done => exact .done
  | void void _ ih => exact .void void ih
  | up _ ih => exact .up ih
  | enter passes found _ ih => exact .enter passes (within _ _ found) ih
  | file passes found => exact .file passes (within _ _ found)
  | link passes found left => exact .link passes (within _ _ found) left
  | follow passes found more _ ih => exact .follow passes (within _ _ found) more ih

end FileTree

/-- A plain path is looked up by its names. -/
theorem Disk.locate_text {disk : Disk} {path : Path} (plain : path.Plain) (followLast : Bool) :
    disk.locate followLast path.text =
      if pathLimit ≤ path.text.utf8ByteSize then .error .nameTooLong
      else disk.tree.walk followLast linkLimit (disk.startOf path) path.names := by
  obtain ⟨voids, void, split⟩ := Path.rawNames_text plain
  rw [locate, if_neg (Path.text_ne_empty plain), Path.ofText_text plain, split,
    FileTree.walk_voids_append void]

end ServerLaunch
