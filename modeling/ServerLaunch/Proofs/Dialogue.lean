import ServerLaunch.Proofs.Provisioning
import ServerLaunch.Proofs.Watching

/-!
# What is said while provisioning

The reports to the host and the calls to the source, in one sequence. A check begins by
telling the host and asking the registry. The installed version may be asked for, then the
host may be told of a download, which is followed by the installation at once, and at the
very end the host may be told of a failure. Nothing is said when the script is trusted.

## Main definitions

* `told`: what is seen of telling the host, with a reporter or without.
* `latestAnswer`: what the registry answers to a check.
* `Dialogue`: which of the optional parts of a check take place.
* `Dialogue.events`: a dialogue as an observer sees it.
* `Dialogue.Fits`: a dialogue is one about an answer of the registry.

**Main statements.** Every check is a dialogue that fits the answer of the registry, with a
reporter or without (`provisionCalls_cases`), and it tells of a failure exactly if it ends
with a launch error (`provisionCalls_dialogue`).
-/
namespace ServerLaunch

variable {σ : Type} (server : String) (workspace : Workspace) (source : PackageSource σ)
  (reporter? : Option (Reporter σ))

/-! ## Being told -/

/-- What an observer sees of telling the host of a stage: nothing if there is no reporter. -/
def told (status : Status) : List Event :=
  match reporter? with
  | none => []
  | some _ => [.status server status]

/-- A watched report is seen and does what the report does. -/
theorem run_report_watched (status : Status) (w : World σ) :
    (report (reporter?.map Reporter.watched) server status).run w =
      ⟨.ok (), ((report reporter? server status).run w).final, told server reporter? status⟩ := by
  cases reporter? with
  | none => rfl
  | some reporter =>
    simp [report, told, Reporter.watched, Reporter.muted, Action.run_bind, Action.run_map,
      Except.map]

/-! ## The parts of a check -/

/-- What the registry answers to a check, the host having been told of it. -/
def latestAnswer (w : World σ) : Run (World σ) Version :=
  (source.latest Server.package).run
    ((report reporter? server .checkingForUpdate).run w).final

theorem run_queryStep_watched (w : World σ) :
    (queryStep server source.watched (reporter?.map Reporter.watched)).run w =
      ⟨(latestAnswer server source reporter? w).outcome,
        (latestAnswer server source reporter? w).final,
        told server reporter? .checkingForUpdate ++ [.latest Server.package]⟩ := by
  simp [queryStep, run_announced, run_report_watched, latestAnswer]

theorem events_installStep_watched (version : Version) (w : World σ) :
    ((installStep server workspace source.watched (reporter?.map Reporter.watched)
        version).run w).events =
      told server reporter? .downloading ++
        [.install Server.package version workspace.root] := by
  simp [installStep, run_announced, run_report_watched]

variable {workspace source} in
/-- The installed version is asked for exactly where the script is. -/
theorem Compared.events_watched {latest : Version} {w : World σ} {r : Run (World σ) Bool}
    (h : Compared workspace source.watched latest w r) :
    ∃ asks : Bool, r.events = (if asks then [.installed Server.package workspace.root] else []) ∧
      (asks = true ↔ w.disk.isFile workspace.entryScript = .ok true) := by
  cases h with
  | unseen look => exact ⟨false, rfl, by simp [look]⟩
  | absent look => exact ⟨false, rfl, by simp [look]⟩
  | raised look stated =>
    simp only [PackageSource.run_installed?_watched, Run.mk.injEq] at stated
    exact ⟨true, by simp [← stated.2.2], by simp [look]⟩
  | stated look stated agrees =>
    simp only [PackageSource.run_installed?_watched, Run.mk.injEq] at stated
    exact ⟨true, by simp [← stated.2.2], by simp [look]⟩

/-! ## Dialogues -/

/-- Which of the optional parts of a check take place. -/
structure Dialogue where
  /-- Whether the installed version is asked for. -/
  compares : Bool
  /-- The version that is installed, if one is. -/
  installs? : Option Version
  /-- Whether the host is told of a failure. -/
  fails : Bool

namespace Dialogue

/-- The dialogue about a workspace, as an observer sees it who is told of stages by
`tell`. -/
def events (d : Dialogue) (tell : Status → List Event) (root : String) : List Event :=
  tell .checkingForUpdate ++ [.latest Server.package]
    ++ (if d.compares then [.installed Server.package root] else [])
    ++ (match d.installs? with
      | some version => tell .downloading ++ [.install Server.package version root]
      | none => [])
    ++ (if d.fails then tell .failed else [])

/-- A dialogue fits an answer of the registry: the installed version is asked for exactly if
there is an answer and the script is there, and nothing but the answer is installed. -/
structure Fits (d : Dialogue) (workspace : Workspace) (answer : Run (World σ) Version) :
    Prop where
  compares_iff : d.compares = true ↔
    (∃ latest, answer.outcome = .ok latest) ∧
      answer.final.disk.isFile workspace.entryScript = .ok true
  installs : ∀ version, d.installs? = some version → answer.outcome = .ok version

/-- A dialogue that breaks off without an answer fits a query that failed. -/
theorem fits_of_error {answer : Run (World σ) Version} {failure : Failure}
    (failed : answer.outcome = .error failure) (fails : Bool) :
    Fits ⟨false, none, fails⟩ workspace answer := by
  constructor
  · simp [failed]
  · simp

/-- A dialogue about the answer fits it if it compares where the script is. -/
theorem fits_of_ok {answer : Run (World σ) Version} {latest : Version}
    (answered : answer.outcome = .ok latest) {compares : Bool}
    (asks : compares = true ↔ answer.final.disk.isFile workspace.entryScript = .ok true)
    {installs? : Option Version} (same : ∀ version, installs? = some version → version = latest)
    (fails : Bool) : Fits ⟨compares, installs?, fails⟩ workspace answer := by
  constructor
  · simp [answered, asks]
  · intro version h
    rw [answered, same version h]

/-- The host being told of a failure is the end of a dialogue. -/
theorem events_fails (d : Dialogue) (quiet : d.fails = false) (tell : Status → List Event)
    (root : String) :
    ({ d with fails := true }).events tell root = d.events tell root ++ tell .failed := by
  simp [events, quiet]

/-- Up to its end a dialogue does not tell of a failure. -/
theorem failed_not_mem_events (d : Dialogue) (quiet : d.fails = false) (root name : String) :
    Event.status name .failed ∉ d.events (told server reporter?) root := by
  obtain ⟨compares, installs?, fails⟩ := d
  subst quiet
  cases reporter? <;> cases compares <;> cases installs? <;> simp [events, told]

end Dialogue

variable {server workspace source reporter?} in
/-- Every check is a dialogue, as far as the failure at its end. -/
theorem Provisioned.dialogue {w : World σ} {r : Run (World σ) Unit}
    (h : Provisioned server workspace source.watched (reporter?.map Reporter.watched) w r) :
    ∃ d : Dialogue, d.fails = false ∧
      r.events = d.events (told server reporter?) workspace.root ∧
      d.Fits workspace (latestAnswer server source reporter? w) := by
  cases h with
  | queryRaised asked _ | queryFailed asked _ =>
    simp only [run_queryStep_watched, Run.mk.injEq] at asked
    obtain ⟨failed, rfl, rfl⟩ := asked
    exact ⟨⟨false, none, false⟩, rfl, by simp [Dialogue.events],
      Dialogue.fits_of_error workspace failed false⟩
  | notCompared asked compared | upToDate asked compared =>
    simp only [run_queryStep_watched, Run.mk.injEq] at asked
    obtain ⟨answered, rfl, rfl⟩ := asked
    obtain ⟨asks, seen, asks_iff⟩ := compared.events_watched
    refine ⟨⟨asks, none, false⟩, rfl, ?_, Dialogue.fits_of_ok workspace answered asks_iff
      (by simp) false⟩
    simp only at seen
    cases asks <;> simp [Dialogue.events, seen]
  | installRaised asked compared done _ | installFailed asked compared done _
  | installed asked compared done =>
    simp only [run_queryStep_watched, Run.mk.injEq] at asked
    obtain ⟨answered, rfl, rfl⟩ := asked
    obtain ⟨asks, seen, asks_iff⟩ := compared.events_watched
    -- Only the events of the installation matter here, however it ended.
    have tells := congrArg Run.events done
    rw [events_installStep_watched] at tells
    refine ⟨⟨asks, some _, false⟩, rfl, ?_, Dialogue.fits_of_ok workspace answered asks_iff
      (fun _ same => (Option.some.inj same).symm) false⟩
    simp only at seen tells
    cases asks <;> simp [Dialogue.events, seen, ← tells]

/-- A call says nothing and leaves the session alone, or it is a dialogue that fits the
answer of the registry and tells of a failure exactly if the call ends with a launch error. -/
theorem provisionCalls_dialogue (s : Session σ) :
    let ended := (ensureInstalled server workspace source reporter?).run s
    let calls := provisionCalls server workspace source reporter? s
    (¬ s.Unproven workspace ∧ calls = [] ∧ ended.final = s ∧
        ∀ error, ended.outcome ≠ .error (.launch error)) ∨
      (s.Unproven workspace ∧ ∃ d : Dialogue,
        calls = d.events (told server reporter?) workspace.root ∧
        d.Fits workspace (latestAnswer server source reporter? s.world) ∧
        (d.fails = true ↔ ∃ error, ended.outcome = .error (.launch error))) := by
  intro ended calls
  -- The rules of the watched run speak of the run itself, since watching changes only events.
  have h := ensured_run server workspace source.watched (reporter?.map Reporter.watched) s
  rw [run_ensureInstalled_watched] at h
  change Ensured _ _ _ _ s ⟨ended.outcome, ended.final, calls⟩ at h
  generalize ended.outcome = outcome at h ⊢
  generalize ended.final = final at h ⊢
  generalize calls = seen at h ⊢
  cases h with
  | trusted confirmed look | unseen confirmed look =>
    have proven := (Session.not_unproven_iff workspace).2 ⟨confirmed, by simp [look]⟩
    exact .inl ⟨proven, rfl, rfl, by simp⟩
  | provisioned unproven check | faulted unproven check =>
    obtain ⟨d, quiet, events, fits⟩ := check.dialogue
    exact .inr ⟨unproven, d, events, fits, by simp [quiet]⟩
  | failed unproven check tells =>
    obtain ⟨d, quiet, events, fits⟩ := check.dialogue
    simp only [run_report_watched, Run.mk.injEq] at tells
    refine .inr ⟨unproven, { d with fails := true }, ?_, ⟨fits.compares_iff, fits.installs⟩,
      by simp⟩
    simp only at events
    rw [Dialogue.events_fails d quiet, events, tells.2.2]

/-- A call says nothing and leaves the session alone, or it is a dialogue that fits the
answer of the registry and ends with a failure only if the call does. -/
theorem provisionCalls_cases (s : Session σ) :
    let ended := (ensureInstalled server workspace source reporter?).run s
    let calls := provisionCalls server workspace source reporter? s
    (¬ s.Unproven workspace ∧ calls = [] ∧ ended.final = s) ∨
      (s.Unproven workspace ∧ ∃ d : Dialogue,
        calls = d.events (told server reporter?) workspace.root ∧
        d.Fits workspace (latestAnswer server source reporter? s.world) ∧
        (d.fails = true → ∃ failure, ended.outcome = .error failure)) := by
  intro ended calls
  rcases provisionCalls_dialogue server workspace source reporter? s with
    ⟨proven, silent, same, _⟩ | ⟨unproven, d, events, fits, fails⟩
  · exact .inl ⟨proven, silent, same⟩
  · refine .inr ⟨unproven, d, events, fits, fun failed => ?_⟩
    obtain ⟨error, ended⟩ := fails.1 failed
    exact ⟨_, ended⟩

/-- **What is said while provisioning.** With a reporter, one call says nothing, because it
trusts the script or cannot look for it, or it is a dialogue: the host is told of the check
and the registry is asked; the installed version is asked for exactly if there is an answer
and the script is there; a download is told of and followed by the installation of just that
answer; and a failure is told of at the very end, only if the call fails. -/
theorem provisionCalls_form (reporter : Reporter σ) (s : Session σ) :
    let ended := (ensureInstalled server workspace source (some reporter)).run s
    let answer := latestAnswer server source (some reporter) s.world
    let calls := provisionCalls server workspace source (some reporter) s
    (calls = [] ∧ s.confirmed = true ∧
        s.world.disk.isFile workspace.entryScript ≠ .ok false) ∨
      ∃ d : Dialogue,
        calls = d.events (fun status => [.status server status]) workspace.root ∧
        (d.compares = true ↔ (∃ latest, answer.outcome = .ok latest) ∧
          answer.final.disk.isFile workspace.entryScript = .ok true) ∧
        (∀ version, d.installs? = some version → answer.outcome = .ok version) ∧
        (d.fails = true → ∃ failure, ended.outcome = .error failure) := by
  intro ended answer calls
  rcases provisionCalls_cases server workspace source (some reporter) s with
    ⟨proven, silent, _⟩ | ⟨_, d, events, fits, fails⟩
  · exact .inl ⟨silent, (Session.not_unproven_iff _).1 proven⟩
  · exact .inr ⟨d, events, fits.compares_iff, fits.installs, fails⟩

/-! ## Being told of a failure -/

variable {server workspace source reporter?} in
/-- A call that ends with a launch error tells of a failure, and of none before. -/
theorem failed_told {s : Session σ} {error : LaunchError}
    (ended : ((ensureInstalled server workspace source reporter?).run s).outcome =
      .error (.launch error)) :
    ∃ before, provisionCalls server workspace source reporter? s =
        before ++ told server reporter? .failed ∧
      ∀ name, Event.status name .failed ∉ before := by
  rcases provisionCalls_dialogue server workspace source reporter? s with
    ⟨_, _, _, other⟩ | ⟨_, d, events, _, fails⟩
  · exact absurd ended (other error)
  · have last := fails.2 ⟨error, ended⟩
    -- The dialogue is the quiet one up to the failure, and then the failure.
    obtain ⟨compares, installs?, _⟩ := d
    subst last
    exact ⟨_, events.trans (Dialogue.events_fails ⟨compares, installs?, false⟩ rfl _ _),
      Dialogue.failed_not_mem_events server reporter? _ rfl _⟩

variable {server workspace source reporter?} in
/-- A call that does not end with a launch error tells of no failure. -/
theorem failed_untold {s : Session σ}
    (other : ∀ error, ((ensureInstalled server workspace source reporter?).run s).outcome ≠
      .error (.launch error)) (name : String) :
    Event.status name .failed ∉ provisionCalls server workspace source reporter? s := by
  rcases provisionCalls_dialogue server workspace source reporter? s with
    ⟨_, silent, _⟩ | ⟨_, d, events, _, fails⟩
  · simp [silent]
  · have quiet : d.fails = false := by simpa [other] using fails
    rw [events]
    exact d.failed_not_mem_events server reporter? quiet _ name

/-- **When the host is told of a failure.** With a reporter, a call that ends with a launch
error tells of a failure once, and that is the last thing it does. A call that gives the
script never tells of one, and neither does a call that ends with a fault from outside. -/
theorem provisionCalls_failed (reporter : Reporter σ) (s : Session σ) :
    let calls := provisionCalls server workspace source (some reporter) s
    match ((ensureInstalled server workspace source (some reporter)).run s).outcome with
    | .ok _ => ∀ name, Event.status name .failed ∉ calls
    | .error (.launch _) => ∃ before, calls = before ++ [.status server .failed] ∧
        ∀ name, Event.status name .failed ∉ before
    | .error (.fault _) => ∀ name, Event.status name .failed ∉ calls := by
  intro calls
  split
  · next ended => exact failed_untold (by simp [ended])
  · next ended => exact failed_told ended
  · next ended => exact failed_untold (by simp [ended])

/-! ### A fault that is not told -/

namespace Uncertified

/-- What a request meets when the certificates are not where they should be. -/
def fault : Fault :=
  .os (.reported .general
    "Could not find a suitable TLS CA certificate bundle, invalid path: /missing.pem")

/-- A session without files, on a machine that has lost its certificates. -/
def session : Session Unit where
  world :=
    { disk := ⟨.empty, .ofLocation []⟩
      environment := []
      executable := ""
      userCache := ""
      depths := .usual
      replies := [.fails fault]
      endings := []
      memory := () }
  confirmed := false

/-- The registry that is asked by default, with npm as it is found. -/
def npm : PackageSource Unit := Npm.source ⟨Server.defaultRegistry, .ofNat 30⟩ {}

/-- A workspace whose host finds nothing. -/
def project : Workspace := .host "/p" []

end Uncertified

/-- A call can end with a failure after the host was told of the check, and the host is told
nothing more. -/
theorem Uncertified.provisionCalls_untold :
    ((ensureInstalled Server.id project npm (some .recording)).run session).outcome =
        .error (.fault fault) ∧
      provisionCalls Server.id project npm (some .recording) session =
        [.status Server.id .checkingForUpdate, .latest Server.package] :=
  ⟨rfl, rfl⟩

end ServerLaunch
