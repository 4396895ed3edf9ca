import ServerLaunch.Descriptor
import ServerLaunch.Proofs.Resolving

/-!
# Where the extension is

If no directory is set, the extension lies where the running program does. The path of the program
is resolved to the entry that it leads to, and a failure of the system to do so is reported as an
error of its own. A path may fail in other ways as well: with a character that cannot be handed to
the system, with a link that goes round, or with links nested too deeply. The system has no report
of these, and they are passed on as they are.

## Main definitions

* `Machine.Eludes`: the path of the running program fails without a report of the system.

**Main statements.** A directory that is given is the one of an entry of the tree, and whatever is
not reported eludes the system (`extensionDir_of_unset`).
-/
namespace ServerLaunch

namespace Machine

variable {m : Machine} {fault : Fault}

/-- The path of the running program fails without a report of the system. -/
structure Eludes (m : Machine) (fault : Fault) : Prop where
  known : m.executable ≠ ""
  fails : m.disk.Fails m.depths.links m.executable fault
  foreign : fault.isSystem = false

/-- What eludes the system: a character, nested links, or a link that goes round. -/
theorem Eludes.cases (h : m.Eludes fault) :
    fault = .nulInPath ∨ fault = Disk.tooManyOpen ∨
      ∃ link : Path, fault = Disk.loopFault link.text ∧
        m.disk.stat link.text = .error (.onPath .tooManyLinks link.text) := by
  rcases h.fails.cases with system | other
  · exact absurd (h.foreign.symm.trans system) (by decide)
  · exact other

/-- Where the extension is, if no directory is set. -/
inductive Places (m : Machine) : Except Failure Path → Prop
  | placed {p : Path} (known : m.executable ≠ "") (resolves : m.disk.Resolves m.executable p) :
      Places m (.ok p.parent)
  | unknown (missing : m.executable = "") :
      Places m (.error SelfLocationFlaw.noExecutable.toFailure)
  | refused {fault : Fault} (known : m.executable ≠ "")
      (fails : m.disk.Fails m.depths.links m.executable fault) (system : fault.isSystem = true) :
      Places m (.error (SelfLocationFlaw.unresolved m.executable fault).toFailure)
  | passed {fault : Fault} (eludes : m.Eludes fault) : Places m (.error (.fault fault))

section Unset

variable {set? : Option String} (unset : ∀ directory, set? = some directory → directory = "")
include unset

theorem filter_eq_none_of_empty : set?.filter (· != "") = none := by
  rw [Option.filter_eq_none_iff]
  intro directory set
  simp [unset directory set]

/-- A running program that is known is resolved. -/
theorem extensionDir_of_known (known : m.executable ≠ "") :
    m.extensionDir set? =
      match m.disk.canonical m.depths.links true m.executable with
      | .ok path => .ok path.parent
      | .error fault => .error (unresolvedExecutable m.executable fault) := by
  rw [extensionDir, filter_eq_none_of_empty unset]
  exact if_neg known

/-- The rules cover every answer. -/
theorem places_extensionDir : m.Places (m.extensionDir set?) := by
  by_cases known : m.executable = ""
  · have missing : m.extensionDir set? = .error SelfLocationFlaw.noExecutable.toFailure := by
      rw [extensionDir, filter_eq_none_of_empty unset]
      exact if_pos known
    exact missing ▸ .unknown known
  · rw [extensionDir_of_known unset known]
    rcases m.disk.canonical_cases m.depths.links m.executable with
      ⟨p, found, resolves⟩ | ⟨fault, lost, fails⟩
    · rw [found]
      exact .placed known resolves
    · rw [lost]
      dsimp only [unresolvedExecutable]
      split
      · next system => exact .refused known fails system
      · next foreign => exact .passed ⟨known, fails, by simpa using foreign⟩

/-- What eludes the system is passed on, unless links are nested too deeply. -/
theorem Eludes.extensionDir_eq (h : m.Eludes fault)
    (shallow : ¬ m.disk.Fails m.depths.links m.executable Disk.tooManyOpen) :
    m.extensionDir set? = .error (.fault fault) := by
  rw [extensionDir_of_known unset h.known, (Disk.canonical_eq_error_iff shallow).2 h.fails]
  simp [unresolvedExecutable, h.foreign]

end Unset

/-- **Where the extension is, if no directory is set.** It is the directory of the entry that the
running program resolves to, or it is reported that the place is not known: without a cause if there
is no path of the program, and with what the system says about the path otherwise. What eludes the
system is passed on and not reported. That is a character, a link that goes round, or links nested
too deeply; short of the last, just what eludes the system is passed on. -/
theorem extensionDir_of_unset (m : Machine) (set? : Option String)
    (unset : ∀ directory, set? = some directory → directory = "") (seated : m.disk.Seated) :
    let given := m.extensionDir set?
    ((∃ location entry, m.disk.Resolves m.executable ⟨.root, location.reverse⟩ ∧
          m.disk.Stands location entry ∧ entry.isLink = false ∧
          given = .ok (Path.parent ⟨.root, location.reverse⟩)) ∨
        (m.executable = "" ∧
          given = .error (.launch (.selfLocation SelfLocationFlaw.noExecutable.report none))) ∨
        (∃ fault, m.disk.Fails m.depths.links m.executable fault ∧ fault.isSystem = true ∧
          given = .error (.launch (.selfLocation
            (SelfLocationFlaw.unresolved m.executable fault).report (some fault)))) ∨
        ∃ fault, m.Eludes fault ∧ given = .error (.fault fault)) ∧
      (∀ fault, m.Eludes fault →
        fault = .nulInPath ∨ fault = Disk.tooManyOpen ∨
          ∃ link : Path, fault = Disk.loopFault link.text ∧
            m.disk.stat link.text = .error (.onPath .tooManyLinks link.text)) ∧
      (¬ m.disk.Fails m.depths.links m.executable Disk.tooManyOpen →
        ∀ fault, m.Eludes fault ↔ given = .error (.fault fault)) := by
  intro given
  have places : m.Places given := places_extensionDir unset
  have passes {fault : Fault} (eludes : m.Eludes fault) : _ → given = .error (.fault fault) :=
    eludes.extensionDir_eq unset
  clear_value given
  refine ⟨?_, fun _ eludes => eludes.cases, fun shallow fault => ?_⟩
  · cases places with
    | placed _ resolves =>
      obtain ⟨location, entry, rfl, stands, plain⟩ := resolves.stands seated
      exact .inl ⟨location, entry, resolves, stands, plain, rfl⟩
    | unknown missing => exact .inr (.inl ⟨missing, rfl⟩)
    | refused _ fails system => exact .inr (.inr (.inl ⟨_, fails, system, rfl⟩))
    | passed eludes => exact .inr (.inr (.inr ⟨_, eludes, rfl⟩))
  · refine ⟨fun eludes => passes eludes shallow, fun same => ?_⟩
    rw [same] at places
    cases places with
    | passed eludes => exact eludes

/-! ### A program below a link, and a link to itself -/

namespace Linking

/-- A machine whose program is started through a link. -/
def machine (target : String) : Machine where
  disk := ⟨⟨[(["l"], .link target), (["d"], .directory), (["e", "d"], .file [] 0o755)]⟩,
    .ofLocation []⟩
  environment := []
  executable := "/l"
  userCache := ""
  depths := .usual
  replies := []
  endings := []

theorem seated (target : String) : (machine target).disk.Seated := Disk.seated_root _

theorem extensionDir_linked : (machine "d/e").extensionDir none = .ok ⟨.root, ["d"]⟩ := by
  rfl

theorem extensionDir_looped :
    (machine "l").extensionDir none = .error (.fault (Disk.loopFault "/l")) := by
  rfl

end Linking

/-- A program that is started through a link lies where the link leads. -/
theorem extensionDir_of_linked :
    (Linking.machine "d/e").disk.Seated ∧
      ∃ location entry, (Linking.machine "d/e").disk.Resolves "/l" ⟨.root, location.reverse⟩ ∧
        (Linking.machine "d/e").disk.Stands location entry ∧
        Path.parent ⟨.root, location.reverse⟩ = ⟨.root, ["d"]⟩ := by
  refine ⟨Linking.seated _, ?_⟩
  obtain ⟨given, -⟩ := extensionDir_of_unset (Linking.machine "d/e") none
    (fun _ set => nomatch set) (Linking.seated _)
  rw [Linking.extensionDir_linked] at given
  rcases given with
    ⟨location, entry, resolves, stands, -, given⟩ | ⟨_, given⟩ | ⟨_, _, _, given⟩ | ⟨_, _, given⟩
  · exact ⟨location, entry, resolves, stands, (Except.ok.inj given).symm⟩
  · cases given
  · cases given
  · cases given

/-- A link that goes round is not reported. -/
theorem extensionDir_unreported :
    ¬ ∀ (m : Machine) (set? : Option String),
        (∀ directory, set? = some directory → directory = "") → m.disk.Seated →
        (∃ directory, m.extensionDir set? = .ok directory) ∨
          ∃ report cause?, m.extensionDir set? =
            .error (.launch (.selfLocation report cause?)) := by
  intro claim
  rcases claim (Linking.machine "l") none (fun _ set => nomatch set) (Linking.seated _) with
    ⟨_, given⟩ | ⟨_, _, given⟩
  · cases Linking.extensionDir_looped.symm.trans given
  · cases Linking.extensionDir_looped.symm.trans given

end Machine

end ServerLaunch
