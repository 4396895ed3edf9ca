import ServerLaunch.Proofs.Locating
import ServerLaunch.Proofs.Walking

/-!
# Testing for a file

A test for what stands at a path takes most failures of the look-up for a no: nothing is there, or
nothing can be. The one failure of a walk that is passed on is a name that is too long, be it on the
way, in the target of a link or the path as a whole. So a test fails exactly where the path is
overlong, and with that failure only.

## Main definitions

* `FileTree.Overlong`: following names from a place comes upon one that is too long.
* `Disk.Overlong`: the text of a path is too long, or what it leads over is.

**Main statement.** A test fails exactly on an overlong path (`Disk.answer_eq_error_iff`).
-/
namespace ServerLaunch

namespace FileTree

/-- Following names from a place comes upon one that is too long, with at most so many links on the
way. -/
inductive Overlong (tree : FileTree) (followLast : Bool) : Nat → Place → List String → Prop
  | long {links : Nat} {here : Place} {name : String} {rest : List String}
      (telling : Path.isVoid name = false) (down : name ≠ "..") (there : here.lost = 0)
      (long : nameLimit < name.utf8ByteSize) : Overlong tree followLast links here (name :: rest)
  | void {links : Nat} {here : Place} {name : String} {rest : List String}
      (void : Path.isVoid name = true) (onward : Overlong tree followLast links here rest) :
      Overlong tree followLast links here (name :: rest)
  | up {links : Nat} {here : Place} {rest : List String}
      (onward : Overlong tree followLast links here.up rest) :
      Overlong tree followLast links here (".." :: rest)
  | enter {links : Nat} {here : Place} {name : String} {rest : List String}
      (passes : Passes name here) (found : tree.get? (name :: here.location) = some .directory)
      (onward : Overlong tree followLast links (.ofLocation (name :: here.location)) rest) :
      Overlong tree followLast links here (name :: rest)
  | follow {links : Nat} {here : Place} {name target : String} {rest : List String}
      (passes : Passes name here)
      (found : tree.get? (name :: here.location) = some (.link target))
      (more : rest ≠ [] ∨ followLast = true)
      (onward : Overlong tree followLast links (linkStart target here)
        (Path.rawNames target ++ rest)) :
      Overlong tree followLast (links + 1) here (name :: rest)

variable {tree : FileTree} {followLast : Bool} {links : Nat} {here : Place} {names : List String}
  {number : Errno}

theorem Overlong.walk_eq (h : tree.Overlong followLast links here names) :
    tree.walk followLast links here names = .error .nameTooLong := by
  induction h with
  | long telling down there long =>
    rw [FileTree.walk_eq, walkNames, if_neg (by simp [telling]), if_neg down,
      if_neg (by simp [there]), if_pos long]
  | void void _ ih => rw [walk_void void, ih]
  | up _ ih => rw [walk_up, ih]
  | enter passes found _ ih =>
    rw [walk_passes passes, found]
    exact ih
  | follow passes found more _ ih =>
    rw [walk_passes passes, found]
    rcases more with more | rfl
    · simpa [more, FileTree.follow] using ih
    · simpa [FileTree.follow] using ih

theorem Overlong.telling (h : tree.Overlong followLast links here names) :
    ∃ name ∈ names, Path.isVoid name = false := by
  induction h with
  | long telling => exact ⟨_, List.mem_cons_self, telling⟩
  | void _ _ ih =>
    obtain ⟨name, listed, telling⟩ := ih
    exact ⟨name, List.mem_cons_of_mem _ listed, telling⟩
  | up => exact ⟨_, List.mem_cons_self, rfl⟩
  | enter passes | follow passes => exact ⟨_, List.mem_cons_self, passes.telling⟩

/-- A walk that fails finds nothing, or a name is too long. -/
theorem walk_error_cases (h : tree.walk followLast links here names = .error number) :
    number.meansAbsent = true ∨
      number = .nameTooLong ∧ tree.Overlong followLast links here names := by
  induction links using Nat.strongRecOn generalizing here names with
  | ind links below =>
  induction names generalizing here with
  | nil =>
    rw [walk_nil] at h
    cases h
  | cons name rest ih =>
    cases void : Path.isVoid name with
    | true =>
      rw [walk_void void] at h
      exact (ih h).imp_right fun ⟨same, onward⟩ => ⟨same, .void void onward⟩
    | false =>
      by_cases up : name = ".."
      · subst up
        rw [walk_up] at h
        exact (ih h).imp_right fun ⟨same, onward⟩ => ⟨same, .up onward⟩
      by_cases there : here.lost = 0
      · by_cases long : nameLimit < name.utf8ByteSize
        · have stops : tree.Overlong followLast links here (name :: rest) :=
            .long void up there long
          rw [stops.walk_eq] at h
          cases h
          exact .inr ⟨rfl, stops⟩
        have passes : Passes name here := ⟨void, up, there, Nat.not_lt.1 long⟩
        rw [walk_passes passes] at h
        split at h
        · cases h
          exact .inl rfl
        · next found =>
          exact (ih h).imp_right fun ⟨same, onward⟩ => ⟨same, .enter passes found onward⟩
        · split at h
          · cases h
          · cases h
            exact .inl rfl
        · next target found =>
          split at h
          · cases h
          · next more =>
            have more : rest ≠ [] ∨ followLast = true := by
              cases followLast <;> simp_all
            cases links with
            | zero =>
              cases h
              exact .inl rfl
            | succ links =>
              exact (below links (Nat.lt_succ_self _) h).imp_right fun ⟨same, onward⟩ =>
                ⟨same, .follow passes found more onward⟩
      · rw [walk_eq, walkNames, if_neg (by simp [void]), if_neg up, if_pos there] at h
        cases h
        exact .inl rfl

end FileTree

namespace Disk

variable {disk : Disk} {text : String} {fault : Fault}

/-- The text of a path that can be handed to the system is too long, or it leads over a name that
is. -/
def Overlong (disk : Disk) (text : String) : Prop :=
  '\x00' ∉ text.toList ∧
    (pathLimit ≤ text.utf8ByteSize ∨
      disk.tree.Overlong true linkLimit (disk.startOf (.ofText text)) (Path.rawNames text))

/-- A look-up that fails finds nothing, or it is a path for which the system has no room. -/
theorem stat_error_cases (h : disk.stat text = .error fault) :
    fault = .nulInPath ∨
      (∃ number : Errno, number.meansAbsent = true ∧ fault = .onPath number text) ∨
      disk.Overlong text ∧ fault = .onPath .nameTooLong text := by
  rw [stat, entryAt] at h
  split at h
  · cases h
    exact .inl rfl
  · next bare =>
    have bare : '\x00' ∉ text.toList := by simpa using bare
    split at h
    · next number stopped =>
      cases h
      rw [locate] at stopped
      split at stopped
      · cases stopped
        exact .inr (.inl ⟨_, rfl, rfl⟩)
      split at stopped
      · next long =>
        cases stopped
        exact .inr (.inr ⟨⟨bare, .inl long⟩, rfl⟩)
      · rcases FileTree.walk_error_cases stopped with absent | ⟨rfl, tooLong⟩
        · exact .inr (.inl ⟨number, absent, rfl⟩)
        · exact .inr (.inr ⟨⟨bare, .inr tooLong⟩, rfl⟩)
    · split at h
      · cases h
      · cases h
        exact .inr (.inl ⟨_, rfl, rfl⟩)

theorem Overlong.stat_eq (h : disk.Overlong text) :
    disk.stat text = .error (.onPath .nameTooLong text) := by
  obtain ⟨bare, long⟩ := h
  have some_text : text ≠ "" := by
    rintro rfl
    rcases long with long | tooLong
    · exact absurd long (by decide)
    · obtain ⟨name, listed, telling⟩ := tooLong.telling
      have names : Path.rawNames "" = [""] := by decide
      rw [names, List.mem_singleton] at listed
      subst listed
      cases telling
  have stopped : disk.locate true text = .error .nameTooLong := by
    rw [locate, if_neg some_text]
    split
    · rfl
    · next short => exact (long.resolve_left short).walk_eq
  rw [stat, entryAt, if_neg (by simpa using bare), stopped]

/-- A test fails exactly on an overlong path. -/
theorem answer_eq_error_iff {test : Entry → Bool} :
    answer test (disk.stat text) = .error fault ↔
      disk.Overlong text ∧ fault = .onPath .nameTooLong text := by
  constructor
  · intro h
    cases found : disk.stat text with
    | ok entry =>
      rw [found] at h
      cases h
    | error stopped =>
      rw [found] at h
      rcases stat_error_cases found with rfl | ⟨number, absent, rfl⟩ | ⟨tooLong, rfl⟩
      · cases h
      · simp [answer, Fault.onPath, absent] at h
      · cases h
        exact ⟨tooLong, rfl⟩
  · rintro ⟨tooLong, rfl⟩
    rw [tooLong.stat_eq]
    rfl

end Disk

end ServerLaunch
