import ServerLaunch.Extension
import ServerLaunch.Proofs.Locating
import ServerLaunch.Proofs.Provisioning

/-!
# What a launch comes to

How a call for a launch descriptor ends, said as rules over what is located and how
provisioning ends, and what stands behind a descriptor: a bridged one runs a script that is
a regular file when the call returns. That needs a source that leaves the files alone while
it is asked for the installed version, which is the one question after the last look at the
script.

## Main definitions

* `Extension.bridgeOutcome`: what comes of starting a script through the bridge.
* `Extension.Launched`: how a call for a descriptor ends.
* `Extension.Starts`: what a descriptor starts, in the files as they are at the return.

**Main statements.** The rules cover every run (`Extension.launched_run`). A call leaves the
session alone unless it comes to provisioning (`Extension.Launched.quiet`), and then it
leaves what provisioning leaves (`Extension.Launched.of_provisions`).
-/
namespace ServerLaunch

variable {σ α : Type}

/-! ## A launch -/

namespace Extension

variable (e : Extension σ) (server : String) (workspace : Workspace)

/-- What comes of starting a script through the bridge: the directory of the extension is
needed first, then the Node program. -/
def bridgeOutcome (script : Path) (m : Machine) : Except Failure Descriptor :=
  match m.extensionDir e.settings.extensionDir? with
  | .error failure => .error failure
  | .ok directory =>
    match m.node workspace e.settings.nodePath? with
    | .error failure => .error failure
    | .ok node => .ok (.bridged node directory script)

/-- The bridge only looks at the machine. -/
theorem run_bridge (script : Path) (s : Session σ) :
    (e.bridge workspace script).run s =
      ⟨e.bridgeOutcome workspace script s.world.toMachine, s, []⟩ := by
  simp only [bridge, look, Action.run_bind, Action.run_observe, bridgeOutcome]
  rcases s.world.toMachine.extensionDir e.settings.extensionDir? with failure | directory
  · rfl
  · rcases s.world.toMachine.node workspace e.settings.nodePath? with failure | node
    · rfl
    · rfl

/-- A bridged descriptor starts the script that was asked for. -/
theorem bridgeOutcome_eq_ok {script : Path} {m : Machine} {d : Descriptor}
    (h : e.bridgeOutcome workspace script m = .ok d) :
    ∃ node directory, d = .bridged node directory script := by
  unfold bridgeOutcome at h
  split at h
  · cases h
  · split at h
    · cases h
    · cases h
      exact ⟨_, _, rfl⟩

/-- How a call for a descriptor ends. -/
inductive Launched (s : Session σ) : Run (Session σ) Descriptor → Prop
  | unknown (other : server ≠ Server.id) :
      Launched s ⟨.error (.launch (.unknownServer server)), s, []⟩
  | unseen {fault : Fault} (known : server = Server.id)
      (located : workspace.locate s.world.toMachine server (!e.settings.autoInstall) =
        .error fault) :
      Launched s ⟨.error (.fault fault), s, []⟩
  | direct {path : Path} (known : server = Server.id)
      (located : workspace.locate s.world.toMachine server (!e.settings.autoInstall) =
        .ok (some ⟨path, true⟩)) :
      Launched s ⟨.ok (.direct path), s, []⟩
  | bridged {path : Path} (known : server = Server.id)
      (located : workspace.locate s.world.toMachine server (!e.settings.autoInstall) =
        .ok (some ⟨path, false⟩)) :
      Launched s ⟨e.bridgeOutcome workspace path s.world.toMachine, s, []⟩
  | notFound (known : server = Server.id)
      (located : workspace.locate s.world.toMachine server (!e.settings.autoInstall) = .ok none)
      (wanted : e.settings.autoInstall = false) :
      Launched s ⟨.error (.launch (.notFound (notFoundReport server))), s, []⟩
  | notProvisioned {failure : Failure} {s' : Session σ} {seen : List Event}
      (known : server = Server.id)
      (located : workspace.locate s.world.toMachine server (!e.settings.autoInstall) = .ok none)
      (wanted : e.settings.autoInstall = true)
      (ensured : Ensured server workspace e.source e.reporter? s ⟨.error failure, s', seen⟩) :
      Launched s ⟨.error failure, s', seen⟩
  | provisioned {script : Path} {s' : Session σ} {seen : List Event}
      (known : server = Server.id)
      (located : workspace.locate s.world.toMachine server (!e.settings.autoInstall) = .ok none)
      (wanted : e.settings.autoInstall = true)
      (ensured : Ensured server workspace e.source e.reporter? s ⟨.ok script, s', seen⟩) :
      Launched s ⟨e.bridgeOutcome workspace script s'.world.toMachine, s', seen⟩

variable {e server workspace} in
/-- The rules say what is done. -/
theorem Launched.run_eq {s : Session σ} {r : Run (Session σ) Descriptor}
    (h : e.Launched server workspace s r) : (e.command server workspace).run s = r := by
  cases h with
  | unknown other => simp [command, other]
  | unseen known located =>
    subst known
    simp [command, serverFor, look, Action.run_bind, located]
  | direct known located =>
    subst known
    simp [command, serverFor, look, Action.run_bind, located]
  | bridged known located =>
    subst known
    simp [command, serverFor, look, Action.run_bind, located, run_bridge]
  | notFound known located wanted =>
    subst known
    simp only [wanted, Bool.not_false] at located
    simp [command, serverFor, look, Action.run_bind, located, wanted]
  | notProvisioned known located wanted ensured =>
    subst known
    simp only [wanted, Bool.not_true] at located
    simp [command, serverFor, look, Action.run_bind, located, wanted,
      ensured.run_eq]
  | provisioned known located wanted ensured =>
    subst known
    simp only [wanted, Bool.not_true] at located
    simp [command, serverFor, look, Action.run_bind, located, wanted,
      ensured.run_eq, run_bridge]

/-- Some rule covers every launch. -/
theorem launched_run (s : Session σ) :
    e.Launched server workspace s ((e.command server workspace).run s) := by
  refine (iff_eq_of_covered Launched.run_eq ?_ _).2 rfl
  by_cases known : server = Server.id
  · rcases located : workspace.locate s.world.toMachine server (!e.settings.autoInstall)
      with fault | ⟨⟩ | ⟨path, direct⟩
    · exact ⟨_, .unseen known located⟩
    · cases wanted : e.settings.autoInstall with
      | false => exact ⟨_, .notFound known located wanted⟩
      | true =>
        have ensured := ensured_run server workspace e.source e.reporter? s
        rcases done : (ensureInstalled server workspace e.source e.reporter?).run s
          with ⟨failure | script, s', seen⟩
        · exact ⟨_, .notProvisioned known located wanted (done ▸ ensured)⟩
        · exact ⟨_, .provisioned known located wanted (done ▸ ensured)⟩
    · cases direct with
      | true => exact ⟨_, .direct known located⟩
      | false => exact ⟨_, .bridged known located⟩
  · exact ⟨_, .unknown known⟩

/-! ## When a launch provisions -/

/-- A launch comes to provisioning: it is for the server that is known, the host does not
find it, and it may be installed. -/
def Provisions (s : Session σ) : Prop :=
  server = Server.id ∧ workspace.find? s.world.toMachine server = none ∧
    e.settings.autoInstall = true

variable {e server workspace} in
/-- A launch that does not come to provisioning leaves the session alone. -/
theorem Launched.quiet {s : Session σ} {r : Run (Session σ) Descriptor}
    (h : e.Launched server workspace s r) (idle : ¬ e.Provisions server workspace s) :
    r.final = s ∧ r.events = [] := by
  cases h with
  | unknown _ | unseen _ _ | direct _ _ | bridged _ _ | notFound _ _ _ => exact ⟨rfl, rfl⟩
  | notProvisioned known located wanted _ | provisioned known located wanted _ =>
    exact absurd ⟨known, Workspace.find?_of_locate_eq_none located, wanted⟩ idle

variable {e server workspace} in
/-- A launch that comes to provisioning leaves what provisioning leaves, however it ends. -/
theorem Launched.of_provisions {s : Session σ} {r : Run (Session σ) Descriptor}
    (h : e.Launched server workspace s r) (provisions : e.Provisions server workspace s) :
    r.final = ((ensureInstalled server workspace e.source e.reporter?).run s).final ∧
      r.events = ((ensureInstalled server workspace e.source e.reporter?).run s).events := by
  obtain ⟨known, absent, wanted⟩ := provisions
  -- With installing wanted nothing of the workspace is searched, so nothing is located.
  have nowhere := Workspace.locate_of_not_searchLocal absent
  cases h with
  | unknown other => exact absurd known other
  | unseen _ located | direct _ located | bridged _ located =>
    rw [wanted, Bool.not_true, nowhere] at located
    cases located
  | notFound _ _ manual => rw [manual] at wanted; cases wanted
  | notProvisioned _ _ _ ensured | provisioned _ _ _ ensured =>
    rw [ensured.run_eq]
    exact ⟨rfl, rfl⟩

/-! ## What a descriptor starts -/

/-- What a descriptor starts, given the machine that the call found and the files as they
are when it returns. -/
inductive Starts (m : Machine) (disk : Disk) : Descriptor → Prop
  /-- The program that the host found. -/
  | hosted {path : String} (found : workspace.find? m Server.id = some path) :
      Starts m disk (.direct (.ofText path))
  /-- The program that the workspace provides, a regular file that may be run. -/
  | program {content : List UInt8} {mode : Nat} (absent : workspace.find? m Server.id = none)
      (manual : e.settings.autoInstall = false)
      (file : disk.stat workspace.localProgram.text = .ok (.file content mode))
      (runnable : mode &&& 0o100 ≠ 0) :
      Starts m disk (.direct workspace.localProgram)
  /-- A regular file, run through the bridge: the entry script, or without installing also
  the program that the workspace provides. -/
  | script {node : String} {directory script : Path} {content : List UInt8} {mode : Nat}
      (absent : workspace.find? m Server.id = none)
      (place : script = workspace.entryScript ∨
        e.settings.autoInstall = false ∧ script = workspace.localProgram)
      (file : disk.stat script.text = .ok (.file content mode)) :
      Starts m disk (.bridged node directory script)

variable {e workspace} in
/-- A descriptor through the bridge starts the script it was made for. -/
theorem Starts.of_bridgeOutcome {m m' : Machine} {disk : Disk} {script : Path} {d : Descriptor}
    (absent : workspace.find? m Server.id = none)
    (place : script = workspace.entryScript ∨
      e.settings.autoInstall = false ∧ script = workspace.localProgram)
    (look : disk.isFile script = .ok true)
    (returned : e.bridgeOutcome workspace script m' = .ok d) : e.Starts workspace m disk d := by
  obtain ⟨node, directory, rfl⟩ := e.bridgeOutcome_eq_ok workspace returned
  obtain ⟨content, mode, file⟩ := Disk.stat_of_isFile look
  exact .script absent place file

/-- **What a descriptor starts is there.** Whatever the installer did to the files, also
when it failed, a descriptor that is returned starts the program that the host found, or a
regular file of the workspace in the file system as it is at the return. -/
theorem command_starts_file (frame : e.source.StatesOnly workspace) (s : Session σ)
    (d : Descriptor) (returned : ((e.command server workspace).run s).outcome = .ok d) :
    e.Starts workspace s.world.toMachine
      ((e.command server workspace).run s).final.world.disk d := by
  have h := e.launched_run server workspace s
  generalize (e.command server workspace).run s = r at h returned ⊢
  cases h with
  | unknown _ | unseen _ _ | notFound _ _ _ | notProvisioned _ _ _ _ => cases returned
  | direct known located =>
    cases returned
    subst known
    rcases Workspace.locate_eq_some located with ⟨path, found, same⟩ | ⟨absent, manual, inside⟩
    · cases same
      exact .hosted found
    · obtain ⟨_, ⟨rfl, runs⟩ | ⟨_, runs⟩⟩ := Workspace.locateLocal_eq_some inside
      · obtain ⟨content, mode, file, runnable⟩ := Disk.stat_of_holdsProgram runs.symm
        exact .program absent (by simpa using manual) file runnable
      · cases runs
  | bridged known located =>
    subst known
    rcases Workspace.locate_eq_some located with ⟨path, found, same⟩ | ⟨absent, manual, inside⟩
    · cases same
    · obtain ⟨look, ⟨rfl, _⟩ | ⟨rfl, _⟩⟩ := Workspace.locateLocal_eq_some inside
      · exact .of_bridgeOutcome absent (.inr ⟨by simpa using manual, rfl⟩) look returned
      · exact .of_bridgeOutcome absent (.inl rfl) look returned
  | provisioned known located wanted ensured =>
    subst known
    -- Provisioning looked at the script after the last change to it.
    obtain ⟨rfl, look⟩ := ensured.present frame
    have absent := Workspace.find?_of_locate_eq_none located
    exact .of_bridgeOutcome absent (.inl rfl) look returned

end Extension

/-! ## A copy that the installer spoils -/

/-- A source whose installer empties the script and then fails. -/
def PackageSource.spoiling (script : Location) : PackageSource Unit where
  latest _ := pure (.ofText "1.10.4")
  install package version _ := do
    World.changeFiles fun disk => (.ok (), disk.put script (.file [] 0o644))
    .fail (.launch (.install package version "npm ended early" none))
  installed? _ _ := pure (some (.ofText "1.9.0"))

namespace Stale

/-- A workspace whose host offers Node and no server. -/
def workspace : Workspace := .host "/p" [("node", "/node")]

/-- The place of its entry script. -/
def script : Location := ["intelephense.js", "lib", "intelephense", "node_modules", "p"]

/-- A machine with an older copy of the server in the workspace. -/
def machine : Machine where
  disk := ⟨⟨[(["p"], .directory), (["node_modules", "p"], .directory),
    (["intelephense", "node_modules", "p"], .directory),
    (["lib", "intelephense", "node_modules", "p"], .directory),
    (script, .file [0] 0o600), (["e"], .file [] 0o755)]⟩, .ofLocation []⟩
  environment := []
  executable := "/e"
  userCache := ""
  depths := .usual
  replies := []
  endings := []

def extension : Extension Unit where
  settings := {}
  source := .spoiling script
  reporter? := none

def session : Session Unit := ⟨⟨machine, ()⟩, false⟩

end Stale

/-- The spoilt script is what is started, and it is there. -/
theorem Extension.command_starts_spoilt_file :
    Stale.extension.source.StatesOnly Stale.workspace ∧
      Stale.extension.Starts Stale.workspace Stale.machine
        ((Stale.extension.command Server.id Stale.workspace).run Stale.session).final.world.disk
        (.bridged "/node" (.ofText "/") Stale.workspace.entryScript) :=
  ⟨fun _ => rfl, Stale.extension.command_starts_file Server.id Stale.workspace (fun _ => rfl)
    Stale.session _ (by rfl)⟩

end ServerLaunch
