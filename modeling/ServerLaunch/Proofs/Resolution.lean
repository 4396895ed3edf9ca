import ServerLaunch.Proofs.Launching

/-!
# How a launch is resolved

What comes of a launch that the host's programs do not settle, down to the files and programs
that are looked for, and which failure is reported where several things are missing at once.
Without installing, what counts is what the workspace offers, and only a program that may be
run starts without the bridge. With installing, what counts is how provisioning ends. The
bridge needs the directory of the extension first and Node second, and nothing else needs
either.

## Main definitions

* `Extension.Bridges`: what comes of starting a script through the bridge.
* `Extension.Resolves`: how a launch ends that the host does not settle.

**Main statements.** The rules of the bridge are what comes of it (`Extension.bridges_iff`).
The rules of a launch hold only of what is done (`Extension.Resolves.run_eq`), and some rule
covers every launch (`Extension.exists_resolves`).
-/
namespace ServerLaunch

variable {σ : Type}

/-! ## The bridge -/

namespace Extension

variable (e : Extension σ) (workspace : Workspace)

/-- What comes of starting a script through the bridge. Without its directory the extension
does not come to look for Node. -/
inductive Bridges (m : Machine) (script : Path) : Except Failure Descriptor → Prop
  | lost {failure : Failure} (unplaced : m.extensionDir e.settings.extensionDir? = .error failure) :
      Bridges m script (.error failure)
  | noNode {directory : Path} {failure : Failure}
      (placed : m.extensionDir e.settings.extensionDir? = .ok directory)
      (missing : m.FindsNode workspace e.settings.nodePath? (.error failure)) :
      Bridges m script (.error failure)
  | bridged {directory : Path} {node : String}
      (placed : m.extensionDir e.settings.extensionDir? = .ok directory)
      (found : m.FindsNode workspace e.settings.nodePath? (.ok node)) :
      Bridges m script (.ok
        { command := node
          arguments := [(directory.joinText Server.bridgeScript).text, script.text]
          environment := [] })

variable {e workspace} in
theorem Bridges.bridgeOutcome_eq {m : Machine} {script : Path}
    {outcome : Except Failure Descriptor} (h : e.Bridges workspace m script outcome) :
    e.bridgeOutcome workspace script m = outcome := by
  cases h with
  | lost unplaced => simp [bridgeOutcome, unplaced]
  | noNode placed missing => simp [bridgeOutcome, placed, missing.node_eq]
  | bridged placed found =>
    simp [bridgeOutcome, placed, found.node_eq, Descriptor.bridged, Descriptor.bridgeScript]

/-- The rules of the bridge are what comes of it. -/
theorem bridges_iff (m : Machine) (script : Path) (outcome : Except Failure Descriptor) :
    e.Bridges workspace m script outcome ↔ e.bridgeOutcome workspace script m = outcome := by
  apply iff_eq_of_covered Bridges.bridgeOutcome_eq
  rcases placed : m.extensionDir e.settings.extensionDir? with failure | directory
  · exact ⟨_, .lost placed⟩
  · rcases found : m.node workspace e.settings.nodePath? with failure | node
    · exact ⟨_, .noNode placed ((Machine.findsNode_iff _).2 found)⟩
    · exact ⟨_, .bridged placed ((Machine.findsNode_iff _).2 found)⟩

/-! ## The whole launch -/

/-- How a launch ends that the host does not settle. -/
inductive Resolves (s : Session σ) : Run (Session σ) Descriptor → Prop
  | unseen {fault : Fault} (manual : e.settings.autoInstall = false)
      (offers : workspace.Offers s.world.disk (.error fault)) :
      Resolves s ⟨.error (.fault fault), s, []⟩
  | notFound (manual : e.settings.autoInstall = false)
      (offers : workspace.Offers s.world.disk (.ok none)) :
      Resolves s ⟨.error (.launch (.notFound (notFoundReport Server.id))), s, []⟩
  | direct {path : Path} (manual : e.settings.autoInstall = false)
      (offers : workspace.Offers s.world.disk (.ok (some ⟨path, true⟩))) :
      Resolves s ⟨.ok
        { command := path.text
          arguments := [Server.streamFlag]
          environment := [] }, s, []⟩
  | bridged {path : Path} {outcome : Except Failure Descriptor}
      (manual : e.settings.autoInstall = false)
      (offers : workspace.Offers s.world.disk (.ok (some ⟨path, false⟩)))
      (bridges : e.Bridges workspace s.world.toMachine path outcome) :
      Resolves s ⟨outcome, s, []⟩
  | notProvisioned {failure : Failure} {s' : Session σ} {seen : List Event}
      (wanted : e.settings.autoInstall = true)
      (ensured : (ensureInstalled Server.id workspace e.source e.reporter?).run s =
        ⟨.error failure, s', seen⟩) :
      Resolves s ⟨.error failure, s', seen⟩
  | provisioned {script : Path} {s' : Session σ} {seen : List Event}
      {outcome : Except Failure Descriptor} (wanted : e.settings.autoInstall = true)
      (ensured : (ensureInstalled Server.id workspace e.source e.reporter?).run s =
        ⟨.ok script, s', seen⟩)
      (bridges : e.Bridges workspace s'.world.toMachine script outcome) :
      Resolves s ⟨outcome, s', seen⟩

variable {e workspace} {s : Session σ}

/-- Where the host finds no server and none may be installed, what the workspace offers is
located. -/
theorem locate_of_offers (absent : workspace.find? s.world.toMachine Server.id = none)
    (manual : e.settings.autoInstall = false) {found : Except Fault (Option Located)}
    (offers : workspace.Offers s.world.disk found) :
    workspace.locate s.world.toMachine Server.id (!e.settings.autoInstall) = found := by
  rw [manual, Bool.not_false, Workspace.locate_of_searchLocal absent]
  exact offers.locateLocal_eq

/-- Where the host finds no server and one may be installed, nothing is located. -/
theorem locate_of_wanted (absent : workspace.find? s.world.toMachine Server.id = none)
    (wanted : e.settings.autoInstall = true) :
    workspace.locate s.world.toMachine Server.id (!e.settings.autoInstall) = .ok none := by
  rw [wanted, Bool.not_true]
  exact Workspace.locate_of_not_searchLocal absent

theorem Resolves.run_eq (absent : workspace.find? s.world.toMachine Server.id = none)
    {r : Run (Session σ) Descriptor} (h : e.Resolves workspace s r) :
    (e.command Server.id workspace).run s = r := by
  cases h with
  | unseen manual offers =>
    exact (Launched.unseen rfl (locate_of_offers absent manual offers)).run_eq
  | notFound manual offers =>
    exact (Launched.notFound rfl (locate_of_offers absent manual offers) manual).run_eq
  | direct manual offers =>
    exact (Launched.direct rfl (locate_of_offers absent manual offers)).run_eq
  | bridged manual offers bridges =>
    rw [← bridges.bridgeOutcome_eq]
    exact (Launched.bridged rfl (locate_of_offers absent manual offers)).run_eq
  | notProvisioned wanted ended =>
    have ensured := ensured_run Server.id workspace e.source e.reporter? s
    rw [ended] at ensured
    exact (Launched.notProvisioned rfl (locate_of_wanted absent wanted) wanted ensured).run_eq
  | provisioned wanted ended bridges =>
    have ensured := ensured_run Server.id workspace e.source e.reporter? s
    rw [ended] at ensured
    rw [← bridges.bridgeOutcome_eq]
    exact (Launched.provisioned rfl (locate_of_wanted absent wanted) wanted ensured).run_eq

variable (e workspace s)

/-- Some rule covers every launch. -/
theorem exists_resolves : ∃ r, e.Resolves workspace s r := by
  cases mode : e.settings.autoInstall with
  | false =>
    rcases found : workspace.locateLocal s.world.toMachine with fault | _ | ⟨path, direct⟩
    all_goals have offers := (Workspace.offers_iff _).2 found
    · exact ⟨_, .unseen mode offers⟩
    · exact ⟨_, .notFound mode offers⟩
    · cases direct with
      | true => exact ⟨_, .direct mode offers⟩
      | false =>
        exact ⟨_, .bridged mode offers ((e.bridges_iff workspace s.world.toMachine path _).2 rfl)⟩
  | true =>
    rcases ended : (ensureInstalled Server.id workspace e.source e.reporter?).run s
      with ⟨failure | script, s', seen⟩
    · exact ⟨_, .notProvisioned mode ended⟩
    · exact ⟨_, .provisioned mode ended
        ((e.bridges_iff workspace s'.world.toMachine script _).2 rfl)⟩

variable {e workspace s}

/-- **How a launch is resolved.** Where the host finds no server, the rules cover every launch
and leave no choice: which file is started and how, and which failure is reported where
several things are missing. -/
theorem run_command_eq_iff_resolves (absent : workspace.find? s.world.toMachine Server.id = none)
    (r : Run (Session σ) Descriptor) :
    (e.command Server.id workspace).run s = r ↔ e.Resolves workspace s r := by
  have covered := e.exists_resolves workspace s
  exact (iff_eq_of_covered (fun h => h.run_eq absent) covered r).symm

end Extension

/-! ### A machine with nothing but a program -/

namespace Bare

/-- A workspace whose host finds nothing. -/
def project : Workspace := .host "/p" []

/-- An extension that may not install. -/
def extension : Extension Unit where
  settings := { autoInstall := false }
  source :=
    { latest := fun _ => pure .empty
      install := fun _ _ _ => pure ()
      installed? := fun _ _ => pure none }
  reporter? := none

/-- A session on a machine that holds the workspace's own program with the given permissions,
no Node, and no path of the running program. -/
def session (mode : Nat) : Session Unit where
  world :=
    { disk := ⟨⟨[(["p"], .directory), (["node_modules", "p"], .directory),
        ([".bin", "node_modules", "p"], .directory),
        (["intelephense", ".bin", "node_modules", "p"], .file [] mode)]⟩, .ofLocation []⟩
      environment := []
      executable := ""
      userCache := ""
      depths := .usual
      replies := []
      endings := []
      memory := () }
  confirmed := false

end Bare

/-- A program that may be run needs neither the directory of the extension nor Node; for any
other one the directory is the first to be missed. -/
theorem Extension.resolves_bare_program :
    Bare.project.find? (Bare.session 0o755).world.toMachine Server.id = none ∧
      (Bare.extension.command Server.id Bare.project).run (Bare.session 0o755) =
        ⟨.ok
          { command := "/p/node_modules/.bin/intelephense"
            arguments := ["--stdio"]
            environment := [] }, Bare.session 0o755, []⟩ ∧
      Bare.project.find? (Bare.session 0o644).world.toMachine Server.id = none ∧
      (Bare.extension.command Server.id Bare.project).run (Bare.session 0o644) =
        ⟨.error SelfLocationFlaw.noExecutable.toFailure, Bare.session 0o644, []⟩ :=
  have file (mode : Nat) : (Bare.session mode).world.disk.stat Bare.project.localProgram.text =
      .ok (.file [] mode) := rfl
  have runnable : Bare.project.Offers (Bare.session 0o755).world.disk
      (.ok (some ⟨Bare.project.localProgram, true⟩)) := .program (file 0o755)
  have plain : Bare.project.Offers (Bare.session 0o644).world.disk
      (.ok (some ⟨Bare.project.localProgram, false⟩)) := .program (file 0o644)
  ⟨rfl, (run_command_eq_iff_resolves rfl _).2 (.direct rfl runnable),
    rfl, (run_command_eq_iff_resolves rfl _).2 (.bridged rfl plain (.lost rfl))⟩

end ServerLaunch
