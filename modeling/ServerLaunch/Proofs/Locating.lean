import ServerLaunch.Located
import ServerLaunch.Node

/-!
# What is found without installing

What is found on a machine that is only looked at: a server among the files of a workspace,
and the Node program. Both searches take the first match, so each is said by rules in which a
later place counts only where the earlier ones have nothing.

## Main definitions

* `Workspace.Offers`: what a workspace offers without installing.
* `Machine.Uses`, `Machine.FindsNode`: which Node program is used.

**Main statements.** The rules are what the searches find (`Workspace.offers_iff`,
`Machine.findsNode_iff`), and what is located at all is the host's or the workspace's
(`Workspace.locate_eq_some`).
-/
namespace ServerLaunch

/-! ## Files -/

namespace Disk

variable {disk : Disk}

/-- A test says yes only of an entry that was found. -/
theorem answer_eq_true {test : Entry → Bool} {found : Except Fault Entry}
    (h : answer test found = .ok true) : ∃ entry, found = .ok entry ∧ test entry = true := by
  unfold answer at h
  split at h
  · exact ⟨_, rfl, by simpa using h⟩
  · split at h <;> cases h
  · cases h
  · cases h

/-- Only a file passes the test for one. -/
theorem eq_file_of_isFile {entry : Entry} (h : entry.isFile = true) :
    ∃ content mode, entry = .file content mode := by
  cases entry with
  | file content mode => exact ⟨content, mode, rfl⟩
  | directory => cases h
  | link target => cases h

/-- A path that leads to a regular file. -/
theorem stat_of_isFile {path : Path} (h : disk.isFile path = .ok true) :
    ∃ content mode, disk.stat path.text = .ok (.file content mode) := by
  obtain ⟨entry, found, regular⟩ := answer_eq_true h
  obtain ⟨content, mode, rfl⟩ := eq_file_of_isFile regular
  exact ⟨content, mode, found⟩

theorem isFile_of_stat {path : Path} {content : List UInt8} {mode : Nat}
    (file : disk.stat path.text = .ok (.file content mode)) : disk.isFile path = .ok true := by
  simp [isFile, answer, file, Entry.isFile]

/-- A text that leads to a regular file that may be run. -/
theorem stat_of_holdsProgram {text : String} (h : disk.holdsProgram text = true) :
    ∃ content mode, disk.stat text = .ok (.file content mode) ∧ mode &&& 0o100 ≠ 0 := by
  unfold holdsProgram holds at h
  rcases found : disk.stat text with fault | entry
  · simp [found] at h
  · rw [found] at h
    cases entry with
    | file content mode => exact ⟨content, mode, rfl, by simpa [Entry.isProgram] using h⟩
    | directory => simp [Entry.isProgram] at h
    | link target => simp [Entry.isProgram] at h

theorem holdsProgram_of_stat {text : String} {content : List UInt8} {mode : Nat}
    (file : disk.stat text = .ok (.file content mode)) :
    disk.holdsProgram text = (mode &&& 0o100 != 0) := by
  simp [holdsProgram, holds, file, Entry.isProgram]

end Disk

/-! ## The files of a workspace -/

namespace Workspace

/-- What a workspace offers without installing: its program, which starts directly if its
owner may run it, or else its entry script, which never does, or nothing. A look that fails
itself ends the search. -/
inductive Offers (workspace : Workspace) (disk : Disk) : Except Fault (Option Located) → Prop
  | program {content : List UInt8} {mode : Nat}
      (file : disk.stat workspace.localProgram.text = .ok (.file content mode)) :
      Offers workspace disk (.ok (some ⟨workspace.localProgram, mode &&& 0o100 != 0⟩))
  | script (noProgram : disk.isFile workspace.localProgram = .ok false)
      (file : disk.isFile workspace.entryScript = .ok true) :
      Offers workspace disk (.ok (some ⟨workspace.entryScript, false⟩))
  | nothing (noProgram : disk.isFile workspace.localProgram = .ok false)
      (noScript : disk.isFile workspace.entryScript = .ok false) :
      Offers workspace disk (.ok none)
  | programUnseen {fault : Fault} (look : disk.isFile workspace.localProgram = .error fault) :
      Offers workspace disk (.error fault)
  | scriptUnseen {fault : Fault} (noProgram : disk.isFile workspace.localProgram = .ok false)
      (look : disk.isFile workspace.entryScript = .error fault) :
      Offers workspace disk (.error fault)

variable {workspace : Workspace} {m : Machine}

theorem Offers.locateLocal_eq {found : Except Fault (Option Located)}
    (h : workspace.Offers m.disk found) : workspace.locateLocal m = found := by
  cases h with
  | program file =>
    simp [locateLocal, Disk.isFile_of_stat file, Disk.holdsProgram_of_stat file, bind,
      Except.bind, pure, Except.pure]
  | script noProgram file =>
    simp [locateLocal, noProgram, file, bind, Except.bind, pure, Except.pure]
  | nothing noProgram noScript =>
    simp [locateLocal, noProgram, noScript, bind, Except.bind, pure, Except.pure]
  | programUnseen look => simp [locateLocal, look, bind, Except.bind]
  | scriptUnseen noProgram look => simp [locateLocal, noProgram, look, bind, Except.bind]

/-- The rules of what a workspace offers are what is located. -/
theorem offers_iff (found : Except Fault (Option Located)) :
    workspace.Offers m.disk found ↔ workspace.locateLocal m = found := by
  apply iff_eq_of_covered Offers.locateLocal_eq
  rcases program : m.disk.isFile workspace.localProgram with fault | _ | _
  · exact ⟨_, .programUnseen program⟩
  · rcases script : m.disk.isFile workspace.entryScript with fault | _ | _
    · exact ⟨_, .scriptUnseen program script⟩
    · exact ⟨_, .nothing program script⟩
    · exact ⟨_, .script program script⟩
  · obtain ⟨content, mode, file⟩ := Disk.stat_of_isFile program
    exact ⟨_, .program file⟩

end Workspace

/-! ## Locating -/

namespace Workspace

variable {workspace : Workspace} {m : Machine} {server : String}

/-- A server that the host finds runs on its own. -/
theorem locate_of_find? {path : String} (found : workspace.find? m server = some path)
    (searchLocal : Bool) :
    workspace.locate m server searchLocal = .ok (some ⟨.ofText path, true⟩) := by
  simp [locate, found]

/-- Without a server of the host and without a search nothing is located. -/
theorem locate_of_not_searchLocal (absent : workspace.find? m server = none) :
    workspace.locate m server false = .ok none := by
  simp [locate, absent]

/-- Without a server of the host a search goes through the files of the workspace. -/
theorem locate_of_searchLocal (absent : workspace.find? m server = none) :
    workspace.locate m server true = workspace.locateLocal m := by
  simp [locate, absent]

/-- What is located among the files of a workspace: its program, direct if it may be run, or
its entry script, never direct. -/
theorem locateLocal_eq_some {located : Located}
    (h : workspace.locateLocal m = .ok (some located)) :
    m.disk.isFile located.path = .ok true ∧
      ((located.path = workspace.localProgram ∧
          located.direct = m.disk.holdsProgram workspace.localProgram.text) ∨
        (located.path = workspace.entryScript ∧ located.direct = false)) := by
  cases (offers_iff _).2 h with
  | program file =>
    exact ⟨Disk.isFile_of_stat file, .inl ⟨rfl, (Disk.holdsProgram_of_stat file).symm⟩⟩
  | script _ file => exact ⟨file, .inr ⟨rfl, rfl⟩⟩

/-- What is located at all: a program of the host, or else something of the workspace. -/
theorem locate_eq_some {searchLocal : Bool} {located : Located}
    (h : workspace.locate m server searchLocal = .ok (some located)) :
    (∃ path, workspace.find? m server = some path ∧ located = ⟨.ofText path, true⟩) ∨
      (workspace.find? m server = none ∧ searchLocal = true ∧
        workspace.locateLocal m = .ok (some located)) := by
  unfold locate at h
  split at h
  · rename_i path found
    cases h
    exact .inl ⟨path, found, rfl⟩
  · rename_i absent
    cases searchLocal with
    | false => cases h
    | true => exact .inr ⟨absent, rfl, h⟩

/-- Nothing is located only if the host finds nothing. -/
theorem find?_of_locate_eq_none {searchLocal : Bool}
    (h : workspace.locate m server searchLocal = .ok none) :
    workspace.find? m server = none := by
  cases found : workspace.find? m server with
  | none => rfl
  | some path => simp [locate_of_find? found] at h

end Workspace

/-! ## Node -/

namespace Machine

variable (m : Machine) (workspace : Workspace) (set? : Option String)

/-- A program that is set is used if it is named and leads to a regular file. -/
def Uses (path : String) : Prop := set? = some path ∧ path ≠ "" ∧ m.disk.holdsFile path = true

/-- Which Node program is found: the one that is set, or else the one that the host finds, or
else the one on the search path of the process. -/
inductive FindsNode : Except Failure String → Prop
  | set {path : String} (uses : m.Uses set? path) : FindsNode (.ok path)
  | hosted {path : String} (unset : ∀ path, ¬ m.Uses set? path)
      (found : workspace.find? m nodeName = some path) : FindsNode (.ok path)
  | searched {path : String} (unset : ∀ path, ¬ m.Uses set? path)
      (unhosted : workspace.find? m nodeName = none) (found : m.program? nodeName = some path) :
      FindsNode (.ok path)
  | nowhere (unset : ∀ path, ¬ m.Uses set? path)
      (unhosted : workspace.find? m nodeName = none) (missing : m.program? nodeName = none) :
      FindsNode (.error (.launch nodeNotFound))

variable {m workspace set?}

/-- The program that is used is the one that passes the test for it. -/
theorem uses_iff {path : String} :
    m.Uses set? path ↔
      (set?.filter fun path => path != "" && m.disk.holdsFile path) = some path := by
  simp [Uses, Option.filter_eq_some_iff]

theorem filter_eq_none_of_unset (unset : ∀ path, ¬ m.Uses set? path) :
    (set?.filter fun path => path != "" && m.disk.holdsFile path) = none := by
  rw [Option.eq_none_iff_forall_ne_some]
  exact fun path used => unset path (uses_iff.2 used)

theorem FindsNode.node_eq {found : Except Failure String}
    (h : m.FindsNode workspace set? found) : m.node workspace set? = found := by
  cases h with
  | set uses => simp [node, uses_iff.1 uses]
  | hosted unset found => simp [node, filter_eq_none_of_unset unset, found]
  | searched unset unhosted found => simp [node, filter_eq_none_of_unset unset, unhosted, found]
  | nowhere unset unhosted missing =>
    simp [node, filter_eq_none_of_unset unset, unhosted, missing]

/-- The rules of looking for Node are what is found. -/
theorem findsNode_iff (found : Except Failure String) :
    m.FindsNode workspace set? found ↔ m.node workspace set? = found := by
  apply iff_eq_of_covered FindsNode.node_eq
  by_cases used : ∃ path, m.Uses set? path
  · obtain ⟨path, uses⟩ := used
    exact ⟨_, .set uses⟩
  · have unset := not_exists.1 used
    rcases hosted : workspace.find? m nodeName with _ | path
    · rcases searched : m.program? nodeName with _ | path
      · exact ⟨_, .nowhere unset hosted searched⟩
      · exact ⟨_, .searched unset hosted searched⟩
    · exact ⟨_, .hosted unset hosted⟩

end Machine

end ServerLaunch
