import ServerLaunch.Proofs.Partners
import ServerLaunch.Proofs.Resolution

/-!
# What a launch does not depend on

A launch looks at many things: settings, files, environment, Node, the source, what the session
has confirmed. Two things cut it short. If the host finds the server, or the server is not the
one that is known, nothing else counts: in any two worlds the launch ends alike and leaves no
trace. And if the workspace holds the server's script and the partners keep it there, it does
not count whether installing is wanted: the script is started through the bridge in both modes.

The two modes look for the directory of the extension and for Node at different times, since
installing comes first. An installation that changes what they find changes the launch, so
agreement of the modes is claimed only where both look-ups are as they were.

## Main definitions

* `Extension.Settles`: a launch ends in a given way and has no effect.
* `Extension.installing`: an extension that may install, or may not.

**Main statements.** A launch that does not come to provisioning has no effect
(`Extension.settles_of_not_provisions`). With an installed script both modes come to the bridge
(`Extension.run_command_manual`, `Extension.outcome_command_installing`).
-/
namespace ServerLaunch

variable {σ : Type}

/-! ## Launches without effect -/

namespace Extension

variable (e : Extension σ) (server : String) (workspace : Workspace) (s : Session σ)

/-- A launch ends in a given way and has no effect: the session is left as it was, the host is
told nothing and the source is asked nothing. -/
structure Settles (outcome : Except Failure Descriptor) : Prop where
  run_eq : (e.command server workspace).run s = ⟨outcome, s, []⟩
  calls_eq : e.calls server workspace s = []

variable {e server workspace s}

/-- A launch that does not come to provisioning has no effect. -/
theorem settles_of_not_provisions (idle : ¬ e.Provisions server workspace s) :
    e.Settles server workspace s ((e.command server workspace).run s).outcome := by
  obtain ⟨final, events⟩ := (e.launched_run server workspace s).quiet idle
  refine ⟨?_, ((e.watched.launched_run server workspace s).quiet idle).2⟩
  rw [← events]
  exact congrArg (Run.mk _ · _) final

/-- A launch of a server that the host finds starts just that. -/
theorem settles_of_find? {path : String}
    (found : workspace.find? s.world.toMachine Server.id = some path) :
    e.Settles Server.id workspace s (.ok (.direct (.ofText path))) := by
  have idle : ¬ e.Provisions Server.id workspace s := by simp [Provisions, found]
  have located := Workspace.locate_of_find? found (!e.settings.autoInstall)
  have settled := settles_of_not_provisions idle
  rwa [(Launched.direct rfl located).run_eq] at settled

/-- A launch of a server that is not known is refused. -/
theorem settles_of_unknown (other : server ≠ Server.id) :
    e.Settles server workspace s (.error (.launch (.unknownServer server))) := by
  have idle : ¬ e.Provisions server workspace s := by simp [Provisions, other]
  have settled := settles_of_not_provisions idle
  rwa [(Launched.unknown other).run_eq] at settled

/-- **What the host settles.** If the host finds the server at a path, the launch is the same
in any two worlds, whatever the settings, files, sources, reporters and sessions: the program
at that path with the flag for its standard streams. A launch of any other server is refused in
any two worlds, whatever the host finds. Neither has an effect. -/
theorem command_isolated {σ₁ σ₂ : Type} (e₁ : Extension σ₁) (e₂ : Extension σ₂)
    (workspace : Workspace) (s₁ : Session σ₁) (s₂ : Session σ₂) :
    (∀ path, path ≠ "" → workspace.program? s₁.world.toMachine Server.id = some path →
        workspace.program? s₂.world.toMachine Server.id = some path →
      let d : Descriptor :=
        { command := (Path.ofText path).text
          arguments := ["--stdio"]
          environment := [] }
      e₁.Settles Server.id workspace s₁ (.ok d) ∧ e₂.Settles Server.id workspace s₂ (.ok d)) ∧
    ∀ server, server ≠ Server.id →
      e₁.Settles server workspace s₁ (.error (.launch (.unknownServer server))) ∧
        e₂.Settles server workspace s₂ (.error (.launch (.unknownServer server))) := by
  constructor
  · intro path named hosted₁ hosted₂ d
    have found₁ : workspace.find? s₁.world.toMachine Server.id = some path := by
      simp [Workspace.find?, hosted₁, named]
    have found₂ : workspace.find? s₂.world.toMachine Server.id = some path := by
      simp [Workspace.find?, hosted₂, named]
    exact ⟨settles_of_find? found₁, settles_of_find? found₂⟩
  · intro server other
    exact ⟨settles_of_unknown other, settles_of_unknown other⟩

end Extension

/-! ### A host that finds everything -/

/-- A workspace whose host finds the server, and another one, on its own path. -/
def Workspace.furnished : Workspace :=
  .host "/p" [(Server.id, "tools//intelephense/."), ("phpactor", "/usr/bin/phpactor")]

/-- A machine with nothing on it and one with an older copy of the server, seen by an extension
that may not install and by one that may. -/
theorem Extension.isolated_furnished :
    let d : Descriptor :=
      { command := "tools/intelephense"
        arguments := ["--stdio"]
        environment := [] }
    (Bare.extension.Settles Server.id .furnished (Bare.session 0o755) (.ok d) ∧
        Stale.extension.Settles Server.id .furnished Stale.session (.ok d)) ∧
      Bare.extension.Settles "phpactor" .furnished (Bare.session 0o755)
          (.error (.launch (.unknownServer "phpactor"))) ∧
        Stale.extension.Settles "phpactor" .furnished Stale.session
          (.error (.launch (.unknownServer "phpactor"))) := by
  have isolated := command_isolated Bare.extension Stale.extension .furnished
    (Bare.session 0o755) Stale.session
  exact ⟨isolated.1 "tools//intelephense/." (by decide) rfl rfl, isolated.2 "phpactor" (by decide)⟩

/-! ## The two modes -/

namespace Extension

/-- The same extension, which may install or may not. -/
def installing (e : Extension σ) (wanted : Bool) : Extension σ :=
  { e with settings := { e.settings with autoInstall := wanted } }

variable (e : Extension σ) {workspace : Workspace} {s : Session σ}

/-- Without installing, the script that the workspace holds is started through the bridge. -/
theorem run_command_manual (absent : workspace.find? s.world.toMachine Server.id = none)
    (noProgram : s.world.disk.isFile workspace.localProgram = .ok false)
    (script : s.world.disk.isFile workspace.entryScript = .ok true) :
    ((e.installing false).command Server.id workspace).run s =
      ⟨e.bridgeOutcome workspace workspace.entryScript s.world.toMachine, s, []⟩ := by
  have offers : workspace.Offers s.world.disk (.ok (some ⟨workspace.entryScript, false⟩)) :=
    .script noProgram script
  exact (Launched.bridged rfl (locate_of_offers (e := e.installing false) absent rfl offers)).run_eq

variable {e} in
/-- With installing, the script is started through the bridge as that is found afterwards, if
the partners keep the script. -/
theorem outcome_command_installing {inv : World σ → Prop}
    (shelters : Sheltering Server.id workspace e.source e.reporter? inv) (holds : inv s.world)
    (absent : workspace.find? s.world.toMachine Server.id = none) :
    let ended := ((e.installing true).command Server.id workspace).run s
    ended.outcome =
      e.bridgeOutcome workspace workspace.entryScript ended.final.world.toMachine := by
  have ensured := ensured_run Server.id workspace e.source e.reporter? s
  have gives := (shelters.ensured holds ensured).1
  generalize (ensureInstalled Server.id workspace e.source e.reporter?).run s = r at ensured gives
  obtain ⟨outcome, final, seen⟩ := r
  subst gives
  have launched := Launched.provisioned (e := e.installing true) rfl
    (locate_of_wanted (e := e.installing true) absent rfl) rfl ensured
  rw [launched.run_eq]
  rfl

variable {e} in
/-- **The two modes.** Where the host finds no server and the workspace has no program of it
but its script, and the partners keep the script and fail only in ways that a copy makes up
for, the script is started through the bridge in both modes: without installing as the bridge
is found at once, with installing as it is found afterwards. If the directory of the extension
and Node are found alike at both times, the two modes end alike. -/
theorem modes_agree {inv : World σ → Prop}
    (shelters : Sheltering Server.id workspace e.source e.reporter? inv) (holds : inv s.world)
    (absent : workspace.find? s.world.toMachine Server.id = none)
    (noProgram : s.world.disk.isFile workspace.localProgram = .ok false) :
    let manual := ((e.installing false).command Server.id workspace).run s
    let automatic := ((e.installing true).command Server.id workspace).run s
    let before := s.world.toMachine
    let after := automatic.final.world.toMachine
    e.Bridges workspace before workspace.entryScript manual.outcome ∧
      e.Bridges workspace after workspace.entryScript automatic.outcome ∧
      (after.extensionDir e.settings.extensionDir? = before.extensionDir e.settings.extensionDir? →
        after.node workspace e.settings.nodePath? = before.node workspace e.settings.nodePath? →
        automatic.outcome = manual.outcome) := by
  intro manual automatic before after
  have manual_eq : manual.outcome = e.bridgeOutcome workspace workspace.entryScript before :=
    congrArg Run.outcome (e.run_command_manual absent noProgram (shelters.present _ holds))
  have automatic_eq : automatic.outcome = e.bridgeOutcome workspace workspace.entryScript after :=
    outcome_command_installing shelters holds absent
  refine ⟨(e.bridges_iff workspace before _ _).2 manual_eq.symm,
    (e.bridges_iff workspace after _ _).2 automatic_eq.symm, ?_⟩
  intro sameDir sameNode
  rw [manual_eq, automatic_eq, bridgeOutcome, bridgeOutcome, sameDir, sameNode]

end Extension

/-! ### An installer that brings Node -/

namespace Stocking

/-- A directory with a search path of its own, on which there is no Node yet. -/
def workspace : Workspace := Workspace.Local.toWorkspace ⟨⟨.root, ["p"]⟩, some "/t"⟩

/-- The machine with an older copy of the server, and a directory for tools. -/
def machine : Machine :=
  { Stale.machine with disk := Stale.machine.disk.put ["t"] .directory }

/-- The files with Node put among the tools, unless that were in the way of the script. -/
def stock (disk : Disk) : Disk :=
  let stocked := disk.put ["node", "t"] (.file [] 0o755)
  match stocked.isFile workspace.entryScript with
  | .ok true => stocked
  | _ => disk

/-- Stocking keeps the script. -/
theorem isFile_stock {disk : Disk} (there : disk.isFile workspace.entryScript = .ok true) :
    (stock disk).isFile workspace.entryScript = .ok true := by
  simp only [stock]
  split
  · assumption
  · exact there

/-- A source whose installer stocks the tools. -/
def source : PackageSource Unit where
  latest _ := pure (.ofText "1.10.4")
  install _ _ _ := World.changeFiles fun disk => (.ok (), stock disk)
  installed? _ _ := pure (some (.ofText "1.9.0"))

theorem sheltering : Sheltering Server.id workspace source none
    fun w => w.disk.isFile workspace.entryScript = .ok true where
  report _ _ there := there
  latest _ there := there
  installed _ there := there
  present _ there := there
  install _ _ there := isFile_stock there
  latest_fails _ _ _ failed := by cases failed
  install_fails _ _ _ _ failed := by cases failed
  installed_answers _ _ _ failed := by cases failed

/-- An extension, with the Node program that is set. -/
def extension (node? : Option String) : Extension Unit where
  settings := { nodePath? := node? }
  source := source
  reporter? := none

def session : Session Unit := ⟨⟨machine, ()⟩, false⟩

/-- The machine after an installation. -/
def stocked : Machine := { machine with disk := stock machine.disk }

/-- The search path of the process has no Node. -/
theorem noNode : machine.program? nodeName = none := by decide +kernel

/-- A launch that may install leaves Node among the tools. -/
theorem world_installing (node? : Option String) :
    ((((extension node?).installing true).command Server.id workspace).run session).final.world =
      ⟨stocked, ()⟩ := by
  have asked : (queryStep Server.id source none).run session.world =
      ⟨.ok (.ofText "1.10.4"), session.world, []⟩ := rfl
  have older : Compared workspace source (.ofText "1.10.4") session.world
      ⟨.ok false, session.world, []⟩ := .stated rfl rfl (by decide)
  have done : (installStep Server.id workspace source none (.ofText "1.10.4")).run session.world =
      ⟨.ok (), ⟨stocked, ()⟩, []⟩ := rfl
  have check := Provisioned.installed asked older done
  rw [show unlessThere (stocked.disk.isFile workspace.entryScript) scriptMissing = .ok () from
    sheltering.unlessThere (w := ⟨stocked, ()⟩) rfl _] at check
  have ensured : Ensured Server.id workspace ((extension node?).installing true).source
      ((extension node?).installing true).reporter? session _ := .provisioned (.inl rfl) check
  have launched := ((extension node?).installing true).launched_run Server.id workspace session
  rw [(launched.of_provisions ⟨rfl, rfl, rfl⟩).1, ensured.run_eq]

end Stocking

/-- A Node program that is set is found before the installation and after it. -/
theorem Extension.modes_agree_set_node :
    Sheltering Server.id Stocking.workspace Stocking.source none
        (fun w => w.disk.isFile Stocking.workspace.entryScript = .ok true) ∧
      ((((Stocking.extension (some "/e")).installing true).command Server.id
          Stocking.workspace).run Stocking.session).outcome =
        ((((Stocking.extension (some "/e")).installing false).command Server.id
          Stocking.workspace).run Stocking.session).outcome := by
  refine ⟨Stocking.sheltering, ?_⟩
  have sameDir : (World.toMachine ⟨Stocking.stocked, ()⟩).extensionDir none =
      Stocking.machine.extensionDir none := rfl
  have sameNode : (World.toMachine ⟨Stocking.stocked, ()⟩).node Stocking.workspace (some "/e") =
      Stocking.machine.node Stocking.workspace (some "/e") := rfl
  rw [← Stocking.world_installing (some "/e")] at sameDir sameNode
  have agree := modes_agree (e := Stocking.extension (some "/e")) Stocking.sheltering
    (s := Stocking.session) rfl rfl rfl
  exact agree.2.2 sameDir sameNode

/-- The modes do not agree if the installation changes what the bridge needs: here it brings
the Node program, which is missing without it. -/
theorem Extension.modes_differ :
    ¬ ∀ (e : Extension Unit) (workspace : Workspace) (s : Session Unit),
      Sheltering Server.id workspace e.source e.reporter?
        (fun w => w.disk.isFile workspace.entryScript = .ok true) →
      workspace.find? s.world.toMachine Server.id = none →
      s.world.disk.isFile workspace.localProgram = .ok false →
      s.world.disk.isFile workspace.entryScript = .ok true →
      (((e.installing true).command Server.id workspace).run s).outcome =
        (((e.installing false).command Server.id workspace).run s).outcome := by
  intro claim
  have same := claim (Stocking.extension none) Stocking.workspace Stocking.session
    Stocking.sheltering rfl rfl rfl
  have automatic : ((((Stocking.extension none).installing true).command Server.id
      Stocking.workspace).run Stocking.session).outcome =
        .ok (.bridged "/t/node" (.ofText "/") Stocking.workspace.entryScript) := rfl
  have nowhere : Stocking.machine.FindsNode Stocking.workspace none
      (.error (.launch nodeNotFound)) := .nowhere (by simp [Machine.Uses]) rfl Stocking.noNode
  have manual : (((Stocking.extension none).installing false).command Server.id
      Stocking.workspace).run Stocking.session = _ := run_command_manual _ rfl rfl rfl
  rw [automatic, manual, (Bridges.noNode rfl nowhere).bridgeOutcome_eq] at same
  cases same

end ServerLaunch
