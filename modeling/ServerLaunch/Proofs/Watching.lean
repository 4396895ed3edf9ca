import ServerLaunch.Extension

/-!
# Watching the launcher

What an observer between the launcher and its partners sees: every report to the host and
every call to the package source, and nothing of what host and source do about them. To
watch is to mute the partners, so that none of their own events can be mistaken for a call,
and to note each call before it is passed on.

Muting drops the events of an action and nothing else. It goes through sequencing, so
muting the whole launcher is the same as muting its partners, and a watched launcher does
what the launcher does.

## Main definitions

* `Action.muted`: an action without its events.
* `PackageSource.watched`, `Reporter.watched`, `Extension.watched`: partners whose calls are
  seen, and only their calls.
* `provisionCalls`, `Extension.calls`: what is seen of provisioning and of a launch.

**Main statements.** Watching changes neither the outcome nor the state
(`run_ensureInstalled_watched`, `run_command_watched`).
-/
namespace ServerLaunch

/-! ## Muting -/

namespace Action

variable {S S' α β : Type}

/-- The same action without its events. -/
def muted (action : Action S α) : Action S α :=
  ⟨fun s => ⟨(action.run s).outcome, (action.run s).final, []⟩⟩

@[simp] theorem run_muted (action : Action S α) (s : S) :
    action.muted.run s = ⟨(action.run s).outcome, (action.run s).final, []⟩ := rfl

@[simp] theorem muted_pure (value : α) : (pure value : Action S α).muted = pure value := rfl

/-- Sequencing is muted part by part. -/
@[simp] theorem muted_bind (first : Action S α) (next : α → Action S β) :
    (first >>= next).muted = first.muted >>= fun value => (next value).muted := by
  apply Action.ext
  funext s
  simp only [run_muted, run_bind]
  cases (first.run s).outcome <;> rfl

@[simp] theorem muted_map (f : α → β) (action : Action S α) :
    (f <$> action).muted = f <$> action.muted := by
  rw [← bind_pure_comp, ← bind_pure_comp, muted_bind]
  rfl

@[simp] theorem muted_fail (failure : Failure) :
    (fail failure : Action S α).muted = fail failure := rfl

@[simp] theorem muted_observe (f : S → Except Failure α) : (observe f).muted = observe f := rfl

@[simp] theorem muted_update (f : S → S) : (update f).muted = update f := rfl

/-- Nothing is left of a step that is only seen. -/
@[simp] theorem muted_emit (event : Event) : (emit event : Action S Unit).muted = pure () := rfl

@[simp] theorem muted_attempt (action : Action S α) :
    action.attempt.muted = action.muted.attempt := rfl

/-- Two actions that are the same when muted have the same outcome and the same state
afterwards. -/
theorem outcome_final_of_muted_eq {a b : Action S α} (h : a.muted = b.muted) (s : S) :
    (a.run s).outcome = (b.run s).outcome ∧ (a.run s).final = (b.run s).final := by
  have hrun : a.muted.run s = b.muted.run s := by rw [h]
  simp only [run_muted, Run.mk.injEq, and_true] at hrun
  exact hrun

end Action

variable {σ α : Type}

@[simp] theorem World.muted_isFile (path : Path) :
    (World.isFile path : Action (World σ) Bool).muted = World.isFile path := rfl

@[simp] theorem Session.muted_onWorld (action : Action (World σ) α) :
    (Session.onWorld action).muted = Session.onWorld action.muted := rfl

/-! ## Partners -/

namespace PackageSource

/-- The same source without its events. -/
def muted (source : PackageSource σ) : PackageSource σ where
  latest package := (source.latest package).muted
  install package version directory := (source.install package version directory).muted
  installed? package directory := (source.installed? package directory).muted

/-- The same source, of which the calls are seen and nothing else. -/
def watched (source : PackageSource σ) : PackageSource σ := source.muted.recorded

@[simp] theorem muted_watched (source : PackageSource σ) : source.watched.muted = source.muted :=
  rfl

variable (source : PackageSource σ) (w : World σ)

@[simp] theorem run_latest_watched (package : String) :
    (source.watched.latest package).run w =
      ⟨((source.latest package).run w).outcome, ((source.latest package).run w).final,
        [.latest package]⟩ := by
  simp [watched, recorded, muted, Action.run_bind]

@[simp] theorem run_install_watched (package : String) (version : Version) (directory : String) :
    (source.watched.install package version directory).run w =
      ⟨((source.install package version directory).run w).outcome,
        ((source.install package version directory).run w).final,
        [.install package version directory]⟩ := by
  simp [watched, recorded, muted, Action.run_bind]

@[simp] theorem run_installed?_watched (package directory : String) :
    (source.watched.installed? package directory).run w =
      ⟨((source.installed? package directory).run w).outcome,
        ((source.installed? package directory).run w).final,
        [.installed package directory]⟩ := by
  simp [watched, recorded, muted, Action.run_bind]

end PackageSource

namespace Reporter

/-- The same reporter without its events. -/
def muted (reporter : Reporter σ) : Reporter σ := fun server status => (reporter server status).muted

/-- The same reporter, of which the calls are seen and nothing else. -/
def watched (reporter : Reporter σ) : Reporter σ := fun server status => do
  .emit (.status server status)
  reporter.muted server status

@[simp] theorem muted_watched (reporter : Reporter σ) : reporter.watched.muted = reporter.muted :=
  rfl

@[simp] theorem muted_comp_watched :
    (muted ∘ watched : Reporter σ → Reporter σ) = muted := by
  funext reporter
  exact muted_watched reporter

end Reporter

namespace Extension

/-- The same extension without the events of its partners. -/
def muted (e : Extension σ) : Extension σ :=
  { e with
    source := e.source.muted
    reporter? := e.reporter?.map Reporter.muted }

/-- The same extension, of which the calls to its partners are seen and nothing else. -/
def watched (e : Extension σ) : Extension σ :=
  { e with
    source := e.source.watched
    reporter? := e.reporter?.map Reporter.watched }

@[simp] theorem muted_watched (e : Extension σ) : e.watched.muted = e.muted := by
  simp [watched, muted]

end Extension

/-! ## The launcher, muted part by part -/

variable (server : String) (workspace : Workspace) (source : PackageSource σ)
  (reporter? : Option (Reporter σ))

@[simp] theorem muted_report (status : Status) :
    (report reporter? server status).muted =
      report (reporter?.map Reporter.muted) server status := by
  cases reporter? <;> simp [report, Reporter.muted]

@[simp] theorem muted_fallBack (script : Path) (failure : Failure) :
    (fallBack script failure : Action (World σ) Unit).muted = fallBack script failure := by
  simp only [fallBack, Action.muted_bind, World.muted_isFile]
  apply bind_congr
  intro there
  cases there <;> simp

@[simp] theorem muted_upToDate (latest : Version) :
    (upToDate source workspace latest).muted = upToDate source.muted workspace latest := by
  simp only [upToDate, Action.muted_bind, World.muted_isFile]
  apply bind_congr
  intro there
  cases there <;> simp [PackageSource.muted]

@[simp] theorem muted_installVersion (version : Version) :
    (installVersion source workspace version).muted =
      installVersion source.muted workspace version := by
  simp only [installVersion, Action.muted_bind, Action.muted_attempt]
  apply bind_congr
  intro outcome
  cases outcome with
  | ok _ =>
    simp only [Action.muted_bind, World.muted_isFile]
    apply bind_congr
    intro there
    cases there <;> simp
  | error failure =>
    cases h : failure.isInstall <;> simp [h]

@[simp] theorem muted_provision :
    (provision server workspace source reporter?).muted =
      provision server workspace source.muted (reporter?.map Reporter.muted) := by
  -- The two sides run the same course, so they are compared after each step of it.
  simp only [provision, Action.muted_bind, Action.muted_attempt, muted_report]
  apply bind_congr
  intro _
  apply bind_congr
  intro outcome
  cases outcome with
  | error failure =>
    cases h : failure.isVersionQuery <;> simp [h]
  | ok latest =>
    simp only [Action.muted_bind, muted_upToDate]
    apply bind_congr
    intro current
    cases current <;> simp

@[simp] theorem muted_reportFailure (failure : Failure) :
    (reportFailure reporter? server failure).muted =
      reportFailure (reporter?.map Reporter.muted) server failure := by
  cases failure <;> simp [reportFailure]

@[simp] theorem muted_stillConfirmed (script : Path) :
    (stillConfirmed script : Action (Session σ) Bool).muted = stillConfirmed script := by
  simp only [stillConfirmed, Action.muted_bind, Action.muted_observe]
  apply bind_congr
  intro confirmed
  cases confirmed <;> simp

/-- Muting provisioning is muting its partners. -/
@[simp] theorem muted_ensureInstalled :
    (ensureInstalled server workspace source reporter?).muted =
      ensureInstalled server workspace source.muted (reporter?.map Reporter.muted) := by
  simp only [ensureInstalled, Action.muted_bind, muted_stillConfirmed]
  apply bind_congr
  intro still
  cases still with
  | true => simp
  | false =>
    simp only [Bool.not_false, if_true, Action.muted_bind, Action.muted_attempt,
      Session.muted_onWorld, muted_provision]
    apply bind_congr
    intro outcome
    cases outcome <;> simp

namespace Extension

variable (e : Extension σ)

@[simp] theorem muted_look (f : Machine → Except Failure α) :
    (look f : Action (Session σ) α).muted = look f := rfl

@[simp] theorem muted_serverFor :
    (e.serverFor server workspace).muted = e.muted.serverFor server workspace := by
  simp only [serverFor, Action.muted_bind, muted_look]
  apply bind_congr
  intro located?
  cases located? with
  | some located => rfl
  | none =>
    cases h : e.settings.autoInstall <;> simp [muted, h]

@[simp] theorem muted_bridge (script : Path) :
    (e.bridge workspace script).muted = e.muted.bridge workspace script := by
  simp only [bridge, Action.muted_bind, muted_look, Action.muted_pure]
  rfl

/-- Muting a launch is muting the partners of the extension. -/
@[simp] theorem muted_command :
    (e.command server workspace).muted = e.muted.command server workspace := by
  by_cases known : server = Server.id
  · simp only [command, known, ne_eq, not_true_eq_false, if_false, Action.muted_bind,
      muted_serverFor]
    apply bind_congr
    intro located
    cases located.direct <;> simp
  · simp [command, known]

end Extension

/-! ## What is seen -/

/-- The reports and the calls to the source that provisioning makes, in order. -/
def provisionCalls (s : Session σ) : List Event :=
  ((ensureInstalled server workspace source.watched (reporter?.map Reporter.watched)).run s).events

/-- Provisioning does the same whether it is watched or not. -/
theorem run_ensureInstalled_watched (s : Session σ) :
    (ensureInstalled server workspace source.watched (reporter?.map Reporter.watched)).run s =
      ⟨((ensureInstalled server workspace source reporter?).run s).outcome,
        ((ensureInstalled server workspace source reporter?).run s).final,
        provisionCalls server workspace source reporter? s⟩ := by
  have same := Action.outcome_final_of_muted_eq
    (a := ensureInstalled server workspace source.watched (reporter?.map Reporter.watched))
    (b := ensureInstalled server workspace source reporter?) (by simp) s
  rw [← same.1, ← same.2]
  rfl

/-- The reports and the calls to the source that a launch makes, in order. -/
def Extension.calls (e : Extension σ) (s : Session σ) : List Event :=
  ((e.watched.command server workspace).run s).events

/-- A launch is the same whether it is watched or not. -/
theorem Extension.run_command_watched (e : Extension σ) (s : Session σ) :
    (e.watched.command server workspace).run s =
      ⟨((e.command server workspace).run s).outcome, ((e.command server workspace).run s).final,
        e.calls server workspace s⟩ := by
  have same := Action.outcome_final_of_muted_eq
    (a := e.watched.command server workspace) (b := e.command server workspace) (by simp) s
  rw [← same.1, ← same.2]
  rfl

end ServerLaunch
