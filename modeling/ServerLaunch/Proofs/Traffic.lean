import ServerLaunch.Proofs.Installing
import ServerLaunch.Proofs.Rechecking
import ServerLaunch.Proofs.Sessions
import ServerLaunch.Proofs.Variables

/-!
# What goes out of a session

An extension that is set up from environment variables makes its package source once, from the
settings of that moment. The settings can be assigned anew between the requests, but the source
does not look at them again: it goes on asking the registry it was made for, with the time-out it
was made with. What the launcher itself looks at, it looks at in each call anew, and that is no
more than three of the settings.

What goes out is requests and processes. The host is told of stages on the way, and then its
reporter may do anything; the statements are for reporters that send nothing themselves.

## Main definitions

* `outgoing`, `Call.sent`: what goes out among what is seen, and what goes out of a call.
* `Reporter.Offline`: a reporter sends nothing.
* `Registry.Sends`: what goes out of a check.
* `Call.Follows`: a call follows the settings that were taken and the settings of the moment.

**Main statements.** Every call of a run follows the settings taken from the variables when the
extension was set up, and in what is looked at anew the settings of the moment
(`Extension.history_follows`).
-/
namespace ServerLaunch

variable {σ α : Type}

/-! ## Traffic -/

/-- A step that goes out: to the network, or to a process. -/
def Event.isOutgoing : Event → Bool
  | request .. | process .. => true
  | _ => false

/-- What goes out, in order. -/
def outgoing (seen : List Event) : List Event := seen.filter Event.isOutgoing

@[simp] theorem outgoing_append (seen more : List Event) :
    outgoing (seen ++ more) = outgoing seen ++ outgoing more := List.filter_append ..

/-- A reporter sends nothing, whatever else it does. -/
def Reporter.Offline (reporter : Reporter σ) : Prop :=
  ∀ server status w, outgoing ((reporter server status).run w).events = []

/-- What goes out of a check at a registry: the request for the latest version, and after it at
most one run of npm, which installs the version that was the answer. -/
inductive Registry.Sends (registry : Registry) (root : String)
    (answer : Except Failure Version) : List Event → Prop
  | asks : Sends registry root answer
      [.request (registry.address ++ "/intelephense/latest") registry.timeout]
  | installs {program cache : String} {version : Version} (stated : answer = .ok version) :
      Sends registry root answer
        [.request (registry.address ++ "/intelephense/latest") registry.timeout,
          .process [program, "install", "--prefix", root, "--no-save", "--cache", cache,
            "intelephense@" ++ version.text] root]

/-- Something goes out of every check. -/
theorem Registry.Sends.ne_nil {registry : Registry} {root : String}
    {answer : Except Failure Version} {sent : List Event}
    (h : registry.Sends root answer sent) : sent ≠ [] := by
  cases h with
  | asks | installs _ => simp

theorem Registry.latestUrl_package (registry : Registry) :
    registry.latestUrl Server.package = registry.address ++ "/intelephense/latest" := by
  rw [latestUrl, String.append_assoc, String.append_assoc]
  rfl

variable {server : String} {workspace : Workspace} {registry : Registry} {npm : Npm}
  {reporter? : Option (Reporter σ)}

/-- Nothing goes out of a comparison. -/
theorem Compared.sends_nothing {latest : Version} {w : World σ} {r : Run (World σ) Bool}
    (h : Compared workspace (Npm.source registry npm) latest w r) : outgoing r.events = [] := by
  cases h with
  | unseen _ | absent _ => rfl
  | raised _ stated | stated _ stated _ =>
    exact congrArg outgoing (congrArg Run.events stated).symm

section

variable (offline : ∀ reporter ∈ reporter?, reporter.Offline)

include offline

variable (server) in
theorem outgoing_report (status : Status) (w : World σ) :
    outgoing ((report reporter? server status).run w).events = [] := by
  cases reporter? with
  | none => rfl
  | some reporter =>
    have silent := offline reporter rfl server status w
    simpa [report, Action.run_map] using silent

variable (server) in
/-- An announced action sends what the action sends where the host was told. -/
theorem outgoing_announced (status : Status) (action : Action (World σ) α) (w : World σ) :
    outgoing ((announced server reporter? status action).run w).events =
      outgoing (action.run ((report reporter? server status).run w).final).events := by
  simp [run_announced, outgoing_report server offline]

/-- A query makes its request, and gives the answer. -/
theorem queryStep_sends {w w₁ : World σ} {outcome : Except Failure Version} {seen : List Event}
    (asked : (queryStep server (Npm.source registry npm) reporter?).run w =
      ⟨outcome, w₁, seen⟩) :
    (latestAnswer server (Npm.source registry npm) reporter? w).outcome = outcome ∧
      outgoing seen =
        [.request (registry.address ++ "/intelephense/latest") registry.timeout] := by
  have sent := outgoing_announced server offline .checkingForUpdate
    ((Npm.source registry npm).latest Server.package) w
  rw [← queryStep, asked] at sent
  constructor
  · rw [queryStep, run_announced] at asked
    exact congrArg Run.outcome asked
  · rw [sent, ← Registry.latestUrl_package]
    simp only [Npm.source, Registry.run_latest]
    rfl

/-- At most a run of npm goes out of an installation. -/
theorem installStep_sends {version : Version} {w w₃ : World σ} {outcome : Except Failure Unit}
    {seen : List Event}
    (done : (installStep server workspace (Npm.source registry npm) reporter? version).run w =
      ⟨outcome, w₃, seen⟩) :
    outgoing seen = [] ∨ ∃ program cache, outgoing seen =
      [.process [program, "install", "--prefix", workspace.root, "--no-save", "--cache", cache,
        "intelephense@" ++ version.text] workspace.root] := by
  have installed := (npm.installed_iff Server.package version workspace.root
    ((report reporter? server .downloading).run w).final _).2 rfl
  have sent : outgoing seen = outgoing ((npm.install Server.package version workspace.root).run
      ((report reporter? server .downloading).run w).final).events := by
    rw [← show _ = seen from congrArg Run.events done]
    exact outgoing_announced server offline .downloading _ w
  rw [sent]
  generalize (npm.install Server.package version workspace.root).run _ = r at installed ⊢
  cases installed with
  | unequipped _ | uncached _ _ => exact .inl rfl
  | broken _ _ _ | exited _ _ _ _ | done _ _ _ _ => exact .inr ⟨_, _, rfl⟩

/-- What goes out of a check is sent to its registry, and what is installed is the answer. -/
theorem Provisioned.sends {w : World σ} {r : Run (World σ) Unit}
    (h : Provisioned server workspace (Npm.source registry npm) reporter? w r) :
    registry.Sends workspace.root
      (latestAnswer server (Npm.source registry npm) reporter? w).outcome (outgoing r.events) := by
  cases h with
  | queryRaised asked _ | queryFailed asked _ =>
    obtain ⟨-, requests⟩ := queryStep_sends offline asked
    rw [requests]
    exact .asks
  | notCompared asked compared | upToDate asked compared =>
    obtain ⟨-, requests⟩ := queryStep_sends offline asked
    rw [outgoing_append, requests, compared.sends_nothing]
    exact .asks
  | installRaised asked compared done _ | installFailed asked compared done _
  | installed asked compared done =>
    obtain ⟨stated, requests⟩ := queryStep_sends offline asked
    rw [outgoing_append, outgoing_append, requests, compared.sends_nothing]
    rcases installStep_sends offline done with nothing | ⟨program, cache, runs⟩
    · rw [nothing]
      exact .asks
    · rw [runs]
      exact .installs stated

/-- What goes out of provisioning: a check if nothing is proven, and nothing otherwise. -/
theorem Ensured.sends {s : Session σ} {r : Run (Session σ) Path}
    (h : Ensured server workspace (Npm.source registry npm) reporter? s r) :
    (¬ s.Unproven workspace ∧ outgoing r.events = []) ∨
      (s.Unproven workspace ∧ registry.Sends workspace.root
        (latestAnswer server (Npm.source registry npm) reporter? s.world).outcome
        (outgoing r.events)) := by
  cases h with
  | trusted confirmed look | unseen confirmed look =>
    exact .inl ⟨(Session.not_unproven_iff workspace).2 ⟨confirmed, by simp [look]⟩, rfl⟩
  | provisioned unproven check | faulted unproven check =>
    exact .inr ⟨unproven, check.sends offline⟩
  | @failed _ w _ _ _ unproven check told =>
    have silent := outgoing_report server offline .failed w
    rw [told] at silent
    rw [outgoing_append, silent, List.append_nil]
    exact .inr ⟨unproven, check.sends offline⟩

end

/-! ## What is looked at in a call -/

namespace Extension

variable (e : Extension σ) (server : String) (workspace : Workspace)

/-- No setting counts in a launch but these three. -/
theorem command_of_agree {other : Extension σ} (source : other.source = e.source)
    (reporter : other.reporter? = e.reporter?)
    (autoInstall : other.settings.autoInstall = e.settings.autoInstall)
    (nodePath : other.settings.nodePath? = e.settings.nodePath?)
    (extensionDir : other.settings.extensionDir? = e.settings.extensionDir?) :
    other.command server workspace = e.command server workspace := by
  simp only [command, serverFor, bridge, source, reporter, autoInstall, nodePath, extensionDir]

/-- What a descriptor is made of, on the machine that a launch leaves: it is direct, or it has the
Node program and the directory that go with the settings. -/
inductive Made (m : Machine) : Descriptor → Prop
  | direct (path : Path) : Made m (.direct path)
  | bridged {directory : Path} {node : String} (script : Path)
      (placed : m.extensionDir e.settings.extensionDir? = .ok directory)
      (found : m.node workspace e.settings.nodePath? = .ok node) :
      Made m (.bridged node directory script)

variable {e workspace} in
theorem Made.of_bridgeOutcome {m : Machine} {script : Path} {d : Descriptor}
    (returned : e.bridgeOutcome workspace script m = .ok d) : e.Made workspace m d := by
  unfold bridgeOutcome at returned
  split at returned
  · cases returned
  · next placed =>
    split at returned
    · cases returned
    · next found =>
      cases returned
      exact .bridged script placed found

variable {e server workspace} in
/-- A descriptor that is returned is made of what is there at the return. -/
theorem Launched.made {s : Session σ} {r : Run (Session σ) Descriptor} {d : Descriptor}
    (h : e.Launched server workspace s r) (returned : r.outcome = .ok d) :
    e.Made workspace r.final.world.toMachine d := by
  cases h with
  | unknown _ | unseen _ _ | notFound _ _ _ | notProvisioned _ _ _ _ => cases returned
  | direct _ _ =>
    cases returned
    exact .direct _
  | bridged _ _ | provisioned _ _ _ _ => exact .of_bridgeOutcome returned

end Extension

/-! ## Calls -/

namespace Call

/-- What goes out of a call. -/
def sent (c : Call σ) : List Event := outgoing c.run.events

/-- A call follows the settings that were taken once in what it sends, and the settings of the
moment in everything else: in whether it sends anything, in what its descriptor is made of, and in
that of the settings nothing else counts, those of the extension when it was set up included. -/
structure Follows (c : Call σ) (taken : Settings) : Prop where
  sends : c.sent = [] ∨
    Registry.Sends ⟨Settings.plainRegistry taken.registry, taken.timeout⟩ c.workspace.root
      (latestAnswer c.server c.extension.source c.extension.reporter? c.before.world).outcome
      c.sent
  sends_iff : c.sent ≠ [] ↔
    c.server = Server.id ∧
    c.workspace.find? c.before.world.toMachine c.server = none ∧
    c.extension.settings.autoInstall = true ∧
    ¬ (c.before.confirmed = true ∧
      c.before.world.disk.isFile c.workspace.entryScript ≠ .ok false)
  made : ∀ d, c.run.outcome = .ok d →
    c.extension.Made c.workspace c.run.final.world.toMachine d
  fixed : ∀ other : Extension σ, other.source = Extension.defaultSource taken →
    other.reporter? = c.extension.reporter? →
    other.settings.autoInstall = c.extension.settings.autoInstall →
    other.settings.nodePath? = c.extension.settings.nodePath? →
    other.settings.extensionDir? = c.extension.settings.extensionDir? →
    (other.command c.server c.workspace).run c.before = c.run

variable {c : Call σ} {registry : Registry} {npm : Npm}

/-- A check is what goes out of a call that comes to provisioning where nothing is proven. Nothing
goes out of any other call. -/
theorem sent_cases (packages : c.extension.source = Npm.source registry npm)
    (offline : ∀ reporter ∈ c.extension.reporter?, reporter.Offline) :
    (¬ (c.extension.Provisions c.server c.workspace c.before ∧ c.before.Unproven c.workspace) ∧
        c.sent = []) ∨
      ((c.extension.Provisions c.server c.workspace c.before ∧ c.before.Unproven c.workspace) ∧
        registry.Sends c.workspace.root
          (latestAnswer c.server c.extension.source c.extension.reporter? c.before.world).outcome
          c.sent) := by
  have launched := c.extension.launched_run c.server c.workspace c.before
  by_cases provisions : c.extension.Provisions c.server c.workspace c.before
  · have ensured := ensured_run c.server c.workspace c.extension.source c.extension.reporter?
      c.before
    have sent : c.sent = outgoing c.ensured.events :=
      congrArg outgoing (launched.of_provisions provisions).2
    rw [sent, Call.ensured]
    rw [packages] at ensured ⊢
    rcases ensured.sends offline with ⟨proven, quiet⟩ | ⟨unproven, sends⟩
    · exact .inl ⟨fun both => proven both.2, quiet⟩
    · exact .inr ⟨⟨provisions, unproven⟩, sends⟩
  · have quiet : c.run.events = [] := (launched.quiet provisions).2
    exact .inl ⟨fun both => provisions both.1, congrArg outgoing quiet⟩

/-- A call follows the settings that the source of its extension goes with. -/
theorem follows {taken : Settings} (packages : c.extension.source = Extension.defaultSource taken)
    (offline : ∀ reporter ∈ c.extension.reporter?, reporter.Offline) : c.Follows taken := by
  have either := sent_cases packages offline
  rw [c.checks_iff] at either
  exact {
    sends := either.imp And.right And.right
    sends_iff := by
      rcases either with ⟨idle, quiet⟩ | ⟨checks, sends⟩
      · exact iff_of_false (absurd quiet) idle
      · exact iff_of_true sends.ne_nil checks
    made := fun d returned =>
      (c.extension.launched_run c.server c.workspace c.before).made returned
    fixed := fun other source reporter autoInstall nodePath extensionDir =>
      congrArg (Action.run · c.before) (c.extension.command_of_agree c.server c.workspace
        (source.trans packages.symm) reporter autoInstall nodePath extensionDir) }

end Call

/-! ## Whole runs -/

namespace Extension

variable {environment : List (String × String)} {reporter? : Option (Reporter σ)}

/-- The source of an extension that is set up from variables goes with the settings that are taken
from them. -/
theorem exists_taken_of_ofEnvironment {e : Extension σ}
    (made : ofEnvironment environment none reporter? = .ok e) :
    ∃ taken, Settings.Taken environment taken ∧ e.source = defaultSource taken ∧
      e.reporter? = reporter? := by
  unfold ofEnvironment at made
  cases read : Settings.ofEnvironment environment with
  | error flaw =>
    rw [read] at made
    cases made
  | ok accepted =>
    rw [read] at made
    cases made
    obtain ⟨taken, told, accepts⟩ := Settings.exists_taken_of_ofEnvironment read
    obtain ⟨-, -, rfl⟩ := Settings.validate_eq_ok_iff.1 accepts
    refine ⟨taken, told, ?_, rfl⟩
    -- The registry loses the slashes at its end twice, in the check and for the source.
    simp [ofSettings, defaultSource, Registry.ofText]

namespace Late

/-- Variables that name a registry with slashes at its end. -/
def told : List (String × String) := [("NPM_CONFIG_REGISTRY", "https://npm.example.com//")]

/-- The extension that is set up from them. -/
def extension : Extension Unit where
  settings := { registry := "https://npm.example.com" }
  source := Npm.source ⟨"https://npm.example.com", .ofNat 30⟩ {}
  reporter? := some .recording

/-- A request for which another registry and another time-out were assigned. -/
def request : Request :=
  ⟨id, { registry := "http://127.0.0.1", timeout := .ofNat 1 }, Server.id, Stale.workspace⟩

theorem made : ofEnvironment told none (some .recording) = .ok extension := by
  rfl

end Late

end Extension

end ServerLaunch
