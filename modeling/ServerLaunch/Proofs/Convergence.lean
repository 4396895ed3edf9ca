import Mathlib.Data.List.TakeWhile
import ServerLaunch.Proofs.Partners
import ServerLaunch.Proofs.Sessions

/-!
# Convergence

A session begins with nothing confirmed, so the first call in it asks the registry, whatever
earlier sessions found. It should find the latest version in place and leave it at that. It
does if the version, installed as it was published, agrees with itself. That is not so for a
version of nothing but blanks and the letter `v`, which agrees with none: it is installed again
in every session.

The registry publishes one version and an installation brings it, in the worlds of an invariant.
The sessions follow one another without any other change.

## Main definitions

* `Version.Significant`: a version says something.
* `Publishes`: the source has one version to offer, and installing it brings it.
* `worldAfter`: the world after some sessions.
* `contacts`: the calls to the source in a new session.

**Main statements.** A session that installs leaves the version in place
(`Publishes.opened_installing`), and a session that finds it in place leaves it there
(`Publishes.opened_holding`).
-/
namespace ServerLaunch

/-! ## Versions that agree with themselves -/

namespace Version

/-- A version says something: apart from the white space around it, it is not made of the
letter `v` alone. -/
def Significant (version : Version) : Prop :=
  ∃ point ∈ Text.dropBoth Text.CodePoint.isBlank version.points, point ≠ .char 'v'

instance (version : Version) : Decidable version.Significant := by
  unfold Significant
  infer_instance

/-- An installed version agrees with itself exactly if it says something. -/
theorem agrees_self_iff (version : Version) :
    agrees (some version) version = true ↔ version.Significant := by
  simp [agrees, Significant, normalize, empty, List.dropWhile_eq_nil_iff]

end Version

section

variable {σ : Type} (server : String) (workspace : Workspace) (source : PackageSource σ)
  (reporter? : Option (Reporter σ))

/-! ## A source with one version -/

/-- The script is there, and the source states its version. -/
structure Holds (version : Version) (w : World σ) : Prop where
  script : w.disk.isFile workspace.entryScript = .ok true
  stated : ((source.installed? Server.package workspace.root).run w).outcome = .ok (some version)

/-- The source answers with one version and an installation of it brings it, in the worlds of
an invariant. Telling the host and asking the source keep the invariant and what was brought. -/
structure Publishes (version : Version) (inv : World σ → Prop) : Prop where
  asking : AskingKeeps server workspace source reporter? inv
  keeping : AskingKeeps server workspace source reporter? fun w =>
    inv w ∧ Holds workspace source version w
  answers : ∀ w, inv w → ((source.latest Server.package).run w).outcome = .ok version
  installs : ∀ w, inv w →
    let installed := (source.install Server.package version workspace.root).run w
    installed.outcome = .ok () ∧ inv installed.final ∧
      Holds workspace source version installed.final

variable {server workspace source reporter?}

/-- The host being told is no call to the source. -/
@[simp] theorem filter_told (status : Status) :
    (told server reporter? status).filter Event.isContact = [] := by
  rw [List.filter_eq_nil_iff]
  intro event told_of
  simp [isContact_of_mem_told told_of]

/-- The version that is in place is the one that is compared. -/
theorem Compared.of_holds {version latest : Version} {w : World σ} {r : Run (World σ) Bool}
    (h : Compared workspace source.watched latest w r) (holds : Holds workspace source version w) :
    r.outcome = .ok (Version.agrees (some version) latest) ∧
      r.events = [.installed Server.package workspace.root] := by
  cases h with
  | unseen look | absent look => simp [holds.script] at look
  | raised _ stated => simp [holds.stated] at stated
  | stated _ stated agrees =>
    simp only [PackageSource.run_installed?_watched, holds.stated, Run.mk.injEq,
      Except.ok.injEq] at stated
    obtain ⟨rfl, -, rfl⟩ := stated
    exact ⟨by rw [agrees], rfl⟩

/-- Comparing installs nothing. -/
theorem Compared.install_not_mem {latest : Version} {w : World σ} {r : Run (World σ) Bool}
    (h : Compared workspace source.watched latest w r) (version : Version) :
    Event.install Server.package version workspace.root ∉ r.events := by
  obtain ⟨asks, events, -⟩ := h.events_watched
  rw [events]
  cases asks <;> simp

namespace Publishes

variable {version : Version} {inv : World σ → Prop}
  (publishes : Publishes server workspace source reporter? version inv)

include publishes

/-- A query is answered with the version, and what all asking keeps is kept. -/
theorem query {kept : World σ → Prop}
    (keeps : AskingKeeps server workspace source reporter? kept)
    (within : ∀ w, kept w → inv w) {w : World σ} {r : Run (World σ) Version} (start : kept w)
    (asked : (queryStep server source.watched (reporter?.map Reporter.watched)).run w = r) :
    r.outcome = .ok version ∧ kept r.final ∧
      r.events.filter Event.isContact = [.latest Server.package] := by
  have after : kept r.final := keeps.watched.query.final asked start
  rw [run_queryStep_watched] at asked
  subst asked
  refine ⟨publishes.answers _ (within _ (keeps.report _ w start)), after, ?_⟩
  simp [Event.isContact]

/-- An installation brings the version, the host having been told. -/
theorem install {w : World σ} {r : Run (World σ) Unit} (start : inv w)
    (done : (installStep server workspace source.watched (reporter?.map Reporter.watched)
      version).run w = r) :
    r.outcome = .ok () ∧ (inv r.final ∧ Holds workspace source version r.final) ∧
      r.events.filter Event.isContact = [.install Server.package version workspace.root] := by
  simp only [installStep, run_announced, run_report_watched,
    PackageSource.run_install_watched] at done
  subst done
  obtain ⟨ok, brought⟩ := publishes.installs _ (publishes.asking.report _ w start)
  refine ⟨ok, brought, ?_⟩
  simp [Event.isContact]

/-- A check either brings the version or does not install it. -/
theorem provisioned {w : World σ} {r : Run (World σ) Unit} (start : inv w)
    (check : Provisioned server workspace source.watched (reporter?.map Reporter.watched) w r) :
    r.outcome = .ok () ∧ inv r.final ∧ Holds workspace source version r.final ∨
      Event.install Server.package version workspace.root ∉ r.events.filter Event.isContact := by
  have query {r₁ : Run (World σ) Version} :=
    publishes.query (r := r₁) publishes.asking (fun _ holds => holds) start
  cases check with
  | queryRaised asked _ | queryFailed asked _ => cases (query asked).1
  | notCompared asked compared | upToDate asked compared =>
    have quiet := compared.install_not_mem version
    simp only at quiet
    simp [(query asked).2.2, quiet]
  | installRaised asked compared done _ | installFailed asked compared done _ =>
    obtain ⟨⟨⟩, before, -⟩ := query asked
    cases (publishes.install (publishes.asking.watched.compared compared before) done).1
  | installed asked compared done =>
    obtain ⟨⟨⟩, before, -⟩ := query asked
    obtain ⟨-, brought, -⟩ :=
      publishes.install (publishes.asking.watched.compared compared before) done
    refine .inl ⟨?_, brought⟩
    simp only [brought.2.script]
    rfl

/-- A check that finds the version in place leaves it in place. It installs it again exactly if
the version says nothing. -/
theorem provisioned_holding {w : World σ} {r : Run (World σ) Unit}
    (held : inv w ∧ Holds workspace source version w)
    (check : Provisioned server workspace source.watched (reporter?.map Reporter.watched) w r) :
    r.outcome = .ok () ∧ (inv r.final ∧ Holds workspace source version r.final) ∧
      r.events.filter Event.isContact =
        [.latest Server.package, .installed Server.package workspace.root] ++
          if version.Significant then []
          else [.install Server.package version workspace.root] := by
  have query {r₁ : Run (World σ) Version} :=
    publishes.query (r := r₁) publishes.keeping (fun _ holds => holds.1) held
  cases check with
  | queryRaised asked _ | queryFailed asked _ => cases (query asked).1
  | notCompared asked compared => cases (compared.of_holds (query asked).2.1.2).1
  | upToDate asked compared =>
    obtain ⟨⟨⟩, before, asks⟩ := query asked
    obtain ⟨same, seen⟩ := compared.of_holds before.2
    have significant := (Version.agrees_self_iff version).1 (Except.ok.inj same).symm
    simp only at seen
    refine ⟨rfl, publishes.keeping.watched.compared compared before, ?_⟩
    simp [asks, seen, significant, Event.isContact]
  | installRaised asked compared done _ | installFailed asked compared done _ =>
    obtain ⟨⟨⟩, before, -⟩ := query asked
    cases (publishes.install (publishes.keeping.watched.compared compared before).1 done).1
  | installed asked compared done =>
    obtain ⟨⟨⟩, before, asks⟩ := query asked
    obtain ⟨same, seen⟩ := compared.of_holds before.2
    have insignificant : ¬ version.Significant := by
      rw [← Version.agrees_self_iff, ← Except.ok.inj same]
      simp
    obtain ⟨-, brought, installs⟩ :=
      publishes.install (publishes.keeping.watched.compared compared before).1 done
    simp only at seen
    refine ⟨?_, brought, ?_⟩
    · simp only [brought.2.script]
      rfl
    · simp [asks, seen, installs, insignificant, List.filter_cons, Event.isContact]

end Publishes

/-! ## One session after another -/

/-- A new session in a world. -/
def Session.opened (w : World σ) : Session σ := ⟨w, false⟩

variable (server workspace source reporter?)

/-- The world after some sessions that each call for the script. -/
def worldAfter (w : World σ) : Nat → World σ
  | 0 => w
  | sessions + 1 => ((ensureInstalled server workspace source reporter?).run
      (.opened (worldAfter w sessions))).final.world

/-- The calls to the source that a call for the script makes in a new session, in order. -/
def contacts (w : World σ) : List Event :=
  (provisionCalls server workspace source reporter? (.opened w)).filter Event.isContact

variable {server workspace source reporter?}

/-- A call in a new session comes to one check, and ends as that does if it goes well. -/
theorem provisioned_opened (w : World σ) :
    let ended := (ensureInstalled server workspace source reporter?).run (.opened w)
    ∃ check : Run (World σ) Unit,
      Provisioned server workspace source.watched (reporter?.map Reporter.watched) w check ∧
        check.events.filter Event.isContact = contacts server workspace source reporter? w ∧
        (check.outcome = .ok () →
          ended.outcome = .ok workspace.entryScript ∧ ended.final.world = check.final) := by
  intro ended
  have h := ensured_run server workspace source.watched (reporter?.map Reporter.watched)
    (.opened w)
  rw [run_ensureInstalled_watched] at h
  change Ensured _ _ _ _ _ ⟨ended.outcome, ended.final, _⟩ at h
  unfold contacts
  generalize ended.outcome = outcome at h ⊢
  generalize ended.final = final at h ⊢
  generalize provisionCalls server workspace source reporter? _ = seen at h ⊢
  cases h with
  | trusted confirmed _ | unseen confirmed _ => cases confirmed
  | provisioned _ check => exact ⟨_, check, rfl, fun _ => ⟨rfl, rfl⟩⟩
  | failed _ check tells =>
    simp only [run_report_watched, Run.mk.injEq] at tells
    refine ⟨_, check, ?_, nofun⟩
    simp [← tells.2.2]
  | faulted _ check => exact ⟨_, check, rfl, nofun⟩

namespace Publishes

variable {version : Version} {inv : World σ → Prop}
  (publishes : Publishes server workspace source reporter? version inv)

include publishes

/-- A session that installs gives the script and leaves the version in place. -/
theorem opened_installing {w : World σ} (start : inv w)
    (installs : Event.install Server.package version workspace.root ∈
      contacts server workspace source reporter? w) :
    let ended := (ensureInstalled server workspace source reporter?).run (.opened w)
    ended.outcome = .ok workspace.entryScript ∧
      inv ended.final.world ∧ Holds workspace source version ended.final.world := by
  intro ended
  obtain ⟨check, course, seen, ends⟩ := provisioned_opened w
  rw [← seen] at installs
  rcases publishes.provisioned start course with ⟨ok, brought⟩ | quiet
  · obtain ⟨outcome, final⟩ := ends ok
    exact ⟨outcome, final ▸ brought⟩
  · exact absurd installs quiet

/-- A session that finds the version in place gives the script and leaves the version in place.
It installs it again exactly if the version says nothing. -/
theorem opened_holding {w : World σ} (held : inv w ∧ Holds workspace source version w) :
    let ended := (ensureInstalled server workspace source reporter?).run (.opened w)
    ended.outcome = .ok workspace.entryScript ∧
      (inv ended.final.world ∧ Holds workspace source version ended.final.world) ∧
      contacts server workspace source reporter? w =
        [.latest Server.package, .installed Server.package workspace.root] ++
          if version.Significant then []
          else [.install Server.package version workspace.root] := by
  intro ended
  obtain ⟨check, course, seen, ends⟩ := provisioned_opened w
  obtain ⟨ok, still, contacts⟩ := publishes.provisioned_holding held course
  obtain ⟨outcome, final⟩ := ends ok
  exact ⟨outcome, final ▸ still, seen ▸ contacts⟩

/-- Once a session has installed the version, it is in place after every session. -/
theorem holds_worldAfter {w : World σ} (start : inv w)
    (installs : Event.install Server.package version workspace.root ∈
      contacts server workspace source reporter? w) (sessions : Nat) :
    let later := worldAfter server workspace source reporter? w (sessions + 1)
    inv later ∧ Holds workspace source version later := by
  induction sessions with
  | zero => exact (publishes.opened_installing start installs).2
  | succ _ held => exact (publishes.opened_holding held).2.1

/-- **Convergence.** Let a session install the one version that the source publishes. Every
later session gives the same script. It asks for the latest version and for the installed one
and installs nothing exactly if the version says something; and if it says nothing, it is
installed again in every session. -/
theorem later_sessions {w : World σ} (start : inv w)
    (installs : Event.install Server.package version workspace.root ∈
      contacts server workspace source reporter? w) :
    let world := worldAfter server workspace source reporter? w
    let outcome sessions :=
      ((ensureInstalled server workspace source reporter?).run (.opened (world sessions))).outcome
    let calls sessions := contacts server workspace source reporter? (world sessions)
    outcome 0 = .ok workspace.entryScript ∧ ∀ sessions,
      (outcome (sessions + 1) = outcome 0 ∧
          calls (sessions + 1) =
            [.latest Server.package, .installed Server.package workspace.root] ↔
        version.Significant) ∧
      (¬ version.Significant →
        outcome (sessions + 1) = outcome 0 ∧
          calls (sessions + 1) =
            [.latest Server.package, .installed Server.package workspace.root,
              .install Server.package version workspace.root]) := by
  intro world outcome calls
  have first : outcome 0 = .ok workspace.entryScript :=
    (publishes.opened_installing start installs).1
  refine ⟨first, fun sessions => ?_⟩
  obtain ⟨again, -, seen⟩ :=
    publishes.opened_holding (publishes.holds_worldAfter start installs sessions)
  have same : outcome (sessions + 1) = outcome 0 := again.trans first.symm
  change calls (sessions + 1) = _ at seen
  rw [seen]
  by_cases significant : version.Significant
  · simp [same, significant]
  · simp [same, significant]

end Publishes

end

/-! ### A source that remembers -/

namespace Depot

/-- A source of one version. Installing makes the script and remembers the version. -/
def source (version : Version) : PackageSource (Option Version) where
  latest _ := pure version
  install _ version _ := do
    World.changeFiles fun disk => (.ok (), disk.put Stale.script (.file [] 0o600))
    .update fun w => { w with memory := some version }
  installed? _ _ := .observe fun w => .ok w.memory

/-- The files before the script was installed. -/
def bare : Disk := Stale.machine.disk.erase Stale.script

/-- The files with the script. -/
def filled : Disk := bare.put Stale.script (.file [] 0o600)

def world : World (Option Version) := ⟨{ Stale.machine with disk := bare }, none⟩

theorem publishes (version : Version) :
    Publishes Server.id Stale.workspace (source version) none version
      fun w => w.disk = bare ∨ w.disk = filled where
  asking := ⟨fun _ _ kept => kept, fun _ kept => kept, fun _ kept => kept⟩
  keeping := ⟨fun _ _ kept => kept, fun _ kept => kept, fun _ kept => kept⟩
  answers _ _ := rfl
  installs w before := by
    have after : w.disk.put Stale.script (.file [] 0o600) = filled := by
      rcases before with before | before <;> rw [before] <;> rfl
    refine ⟨rfl, .inr after, ?_, rfl⟩
    change (w.disk.put Stale.script (.file [] 0o600)).isFile _ = _
    rw [after]
    rfl

/-- The calls to the source in a session after others. -/
def calls (text : String) (sessions : Nat) : List Event :=
  contacts Server.id Stale.workspace (source (.ofText text)) none
    (worldAfter Server.id Stale.workspace (source (.ofText text)) none world sessions)

end Depot

/-- A version with digits is installed once, and one with nothing but the letter in every
session. -/
theorem Publishes.later_sessions_depot :
    (∀ sessions, Depot.calls "v1.10.4" (sessions + 1) =
        [.latest Server.package, .installed Server.package "/p"]) ∧
      ∀ sessions, Depot.calls " v " (sessions + 1) =
        [.latest Server.package, .installed Server.package "/p",
          .install Server.package (.ofText " v ") "/p"] := by
  have numbered := (Depot.publishes (.ofText "v1.10.4")).later_sessions (w := Depot.world)
    (.inl rfl) (by decide)
  have lettered := (Depot.publishes (.ofText " v ")).later_sessions (w := Depot.world)
    (.inl rfl) (by decide)
  exact ⟨fun sessions => ((numbered.2 sessions).1.2 (by decide)).2,
    fun sessions => ((lettered.2 sessions).2 (by decide)).2⟩

end ServerLaunch
