import ServerLaunch.Proofs.Dialogue

/-!
# Partners that keep an invariant

A package source and a reporter may do anything to the world, so little can be said of what
they leave. Often they keep something: a script that stays where it is, or a version that
stays the latest one. That is said by an invariant of the world, which holds in the worlds
that the launcher meets and need not hold in any other.

Telling the host and asking the source come before an installation and can leave the files
alone where the installation does not, so they are taken apart from it.

## Main definitions

* `Action.Keeps`: an action keeps an invariant, however it ends.
* `AskingKeeps`: telling the host and asking the source keep an invariant.
* `Sheltering`: the partners keep the script where it is and fail only in ways that a copy
  makes up for.

**Main statements.** What the partners keep is kept by each step of a check
(`AskingKeeps.query`, `AskingKeeps.compared`, `AskingKeeps.installStep`) and so by a call for the
script (`AskingKeeps.ensured`). With sheltering partners the call gives the script
(`Sheltering.ensured`).
-/
namespace ServerLaunch

/-! ## Keeping -/

namespace Action

variable {S α : Type}

/-- An action keeps an invariant of the state: it holds afterwards if it did before, however
the action ends. -/
def Keeps (inv : S → Prop) (action : Action S α) : Prop := ∀ s, inv s → inv (action.run s).final

/-- What an action keeps holds in the state that a run of it leaves. -/
theorem Keeps.final {inv : S → Prop} {action : Action S α} (keeps : action.Keeps inv) {s : S}
    {r : Run S α} (done : action.run s = r) (before : inv s) : inv r.final :=
  done ▸ keeps s before

end Action

variable {σ : Type} (server : String) (workspace : Workspace) (source : PackageSource σ)
  (reporter? : Option (Reporter σ))

/-- Telling the host and asking the source keep an invariant of the world. Nothing is said of
installing. -/
structure AskingKeeps (inv : World σ → Prop) : Prop where
  report : ∀ status, (report reporter? server status).Keeps inv
  latest : (source.latest Server.package).Keeps inv
  installed : (source.installed? Server.package workspace.root).Keeps inv

namespace AskingKeeps

variable {server workspace source reporter?} {inv : World σ → Prop}
  (keeps : AskingKeeps server workspace source reporter? inv)

include keeps

/-- The question for the latest version, the host having been told. -/
theorem query : (queryStep server source reporter?).Keeps inv := by
  intro w before
  rw [queryStep, run_announced]
  exact keeps.latest _ (keeps.report _ w before)

/-- An installation keeps what installing keeps, the host having been told. -/
theorem installStep {inv' : World σ → Prop} {version : Version}
    (leaves : ∀ w, inv w →
      inv' ((source.install Server.package version workspace.root).run w).final)
    (w : World σ) (before : inv w) :
    inv' ((installStep server workspace source reporter? version).run w).final := by
  rw [ServerLaunch.installStep, run_announced]
  exact leaves _ (keeps.report _ w before)

/-- Comparing asks only for the installed version. -/
theorem compared {latest : Version} {w : World σ} {r : Run (World σ) Bool}
    (h : Compared workspace source latest w r) (before : inv w) : inv r.final := by
  cases h with
  | unseen _ | absent _ => exact before
  | raised _ stated | stated _ stated _ => exact (keeps.installed.final stated before :)

/-- A check keeps what its partners keep, however it ends. -/
theorem provisioned
    (installs : ∀ version, (source.install Server.package version workspace.root).Keeps inv)
    {w : World σ} {r : Run (World σ) Unit}
    (check : Provisioned server workspace source reporter? w r) (before : inv w) :
    inv r.final := by
  have query {r₁} (asked : (queryStep server source reporter?).run w = r₁) : inv r₁.final :=
    keeps.query.final asked before
  have install {latest w₂ r₃} (differs : inv w₂)
      (done : (ServerLaunch.installStep server workspace source reporter? latest).run w₂ = r₃) :
      inv r₃.final :=
    done ▸ keeps.installStep (installs latest) w₂ differs
  cases check with
  | queryRaised asked _ | queryFailed asked _ => exact (query asked :)
  | notCompared asked compared | upToDate asked compared =>
    exact (keeps.compared compared (query asked) :)
  | installRaised asked compared done _ | installFailed asked compared done _
  | installed asked compared done =>
    exact (install (keeps.compared compared (query asked)) done :)

/-- A call for the script keeps what the partners keep. -/
theorem ensured
    (installs : ∀ version, (source.install Server.package version workspace.root).Keeps inv)
    {s : Session σ} {r : Run (Session σ) Path}
    (h : Ensured server workspace source reporter? s r) (before : inv s.world) :
    inv r.final.world := by
  cases h with
  | trusted _ _ | unseen _ _ => exact before
  | provisioned _ check | faulted _ check => exact keeps.provisioned installs check before
  | failed _ check told =>
    exact ((keeps.report .failed).final told (keeps.provisioned installs check before) :)

/-- Watching the partners does not keep them from keeping an invariant. -/
theorem watched :
    AskingKeeps server workspace source.watched (reporter?.map Reporter.watched) inv where
  report status w before := by
    rw [run_report_watched]
    exact keeps.report status w before
  latest w before := by
    rw [PackageSource.run_latest_watched]
    exact keeps.latest w before
  installed w before := by
    rw [PackageSource.run_installed?_watched]
    exact keeps.installed w before

end AskingKeeps

/-! ## Partners that never take the script away -/

/-- The partners keep the script of a workspace where it is, and the source fails only in ways
that a copy makes up for, in the worlds of an invariant. -/
structure Sheltering (inv : World σ → Prop) : Prop
    extends AskingKeeps server workspace source reporter? inv where
  present : ∀ w, inv w → w.disk.isFile workspace.entryScript = .ok true
  install : ∀ version, (source.install Server.package version workspace.root).Keeps inv
  latest_fails : ∀ w, inv w → ∀ failure,
    ((source.latest Server.package).run w).outcome = .error failure →
      failure.isVersionQuery = true
  install_fails : ∀ version w, inv w → ∀ failure,
    ((source.install Server.package version workspace.root).run w).outcome = .error failure →
      failure.isInstall = true
  installed_answers : ∀ w, inv w → ∀ failure,
    ((source.installed? Server.package workspace.root).run w).outcome ≠ .error failure

namespace Sheltering

variable {server workspace source reporter?} {inv : World σ → Prop}
  (shelters : Sheltering server workspace source reporter? inv)

include shelters

/-- The script is there when it is looked for. -/
theorem unlessThere {w : World σ} (holds : inv w) (failure : Failure) :
    unlessThere (w.disk.isFile workspace.entryScript) failure = .ok () := by
  rw [shelters.present w holds]
  rfl

/-- Asking for the latest version fails only as asking the registry does. -/
theorem query_fails {w w' : World σ} (holds : inv w) {failure : Failure} {seen : List Event}
    (asked : (queryStep server source reporter?).run w = ⟨.error failure, w', seen⟩) :
    failure.isVersionQuery = true := by
  rw [queryStep, run_announced, Run.mk.injEq] at asked
  exact shelters.latest_fails _ (shelters.report _ w holds) failure asked.1

theorem installStep_fails {version : Version} {w w' : World σ} (holds : inv w)
    {failure : Failure} {seen : List Event}
    (done : (installStep server workspace source reporter? version).run w =
      ⟨.error failure, w', seen⟩) : failure.isInstall = true := by
  rw [installStep, run_announced, Run.mk.injEq] at done
  exact shelters.install_fails version _ (shelters.report _ w holds) failure done.1

/-- Comparing never fails. -/
theorem compared_ok {latest : Version} {w w' : World σ} (holds : inv w) {failure : Failure}
    {seen : List Event} : ¬ Compared workspace source latest w ⟨.error failure, w', seen⟩ := by
  intro compared
  cases compared with
  | unseen look =>
    rw [shelters.present w holds] at look
    cases look
  | raised _ stated => exact shelters.installed_answers w holds failure (by rw [stated])

/-- A check with sheltering partners goes well. -/
theorem provisioned {w : World σ} (holds : inv w) {r : Run (World σ) Unit}
    (check : Provisioned server workspace source reporter? w r) :
    r.outcome = .ok () ∧ inv r.final := by
  have after : inv r.final := shelters.toAskingKeeps.provisioned shelters.install check holds
  refine ⟨?_, after⟩
  cases check with
  | queryRaised asked other => simp [shelters.query_fails holds asked] at other
  | queryFailed _ _ | installFailed _ _ _ _ | installed _ _ _ =>
    exact shelters.unlessThere after _
  | upToDate _ _ => rfl
  | notCompared asked compared =>
    exact absurd compared (shelters.compared_ok (shelters.query.final asked holds))
  | installRaised asked compared done other =>
    have differs := shelters.toAskingKeeps.compared compared (shelters.query.final asked holds)
    simp [shelters.installStep_fails differs done] at other

/-- **Sheltering partners.** A call for the script gives it, whether it is trusted or checked
and however the check goes, and the invariant holds afterwards. -/
theorem ensured {s : Session σ} (holds : inv s.world) {r : Run (Session σ) Path}
    (h : Ensured server workspace source reporter? s r) :
    r.outcome = .ok workspace.entryScript ∧ inv r.final.world := by
  cases h with
  | trusted _ _ => exact ⟨rfl, holds⟩
  | unseen _ look =>
    rw [shelters.present _ holds] at look
    cases look
  | provisioned _ check => exact ⟨rfl, (shelters.provisioned holds check).2⟩
  | failed _ check _ => cases (shelters.provisioned holds check).1
  | faulted _ check => cases (shelters.provisioned holds check).1

end Sheltering

end ServerLaunch
