import ServerLaunch.Proofs.Sessions

/-!
# Trust in a copy

Calls for the server's script that share one session, for any workspaces, with anything
happening in between. A call that gives a script without asking the registry trusts the copy
that it finds. Trust is a matter of the session and not of the workspace: it goes back to a
call of the session that asked and succeeded, and that call may have been for another
workspace.

## Main definitions

* `Errand`: a call for the script, with what happened since the last one.
* `Errand.Returns`, `Errand.Asks`: a call gives the script, and it asks the registry.
* `Errand.after`: the session after some calls.

**Main statements.** A call that does not ask found its script there in a confirmed session
(`Errand.trusts_of_not_asks`), and a session becomes confirmed only through a call that asked
and returned (`Errand.exists_of_confirmed`).
-/
namespace ServerLaunch

variable {σ : Type}

/-- A call for the script of a workspace. Anything may have happened to the world since the
last one, and every call may come with a source and a reporter of its own. -/
structure Errand (σ : Type) where
  since : World σ → World σ
  server : String
  workspace : Workspace
  source : PackageSource σ
  reporter? : Option (Reporter σ)

namespace Errand

variable (errand : Errand σ) (s : Session σ)

/-- The session that a call meets. -/
def arrive : Session σ := { s with world := errand.since s.world }

/-- What comes of a call. -/
def run : Run (Session σ) Path :=
  (ensureInstalled errand.server errand.workspace errand.source errand.reporter?).run
    (errand.arrive s)

/-- The reports and the calls to the source that a call makes, in order. -/
def seen : List Event :=
  provisionCalls errand.server errand.workspace errand.source errand.reporter? (errand.arrive s)

/-- A call gives a script. -/
def Returns : Prop := ∃ script, (errand.run s).outcome = .ok script

/-- A call asks the registry for the latest version. -/
def Asks : Prop := ∃ event ∈ errand.seen s, event.isQuery = true

/-- The session after some calls. -/
def after (s : Session σ) : List (Errand σ) → Session σ
  | [] => s
  | errand :: rest => after (errand.run s).final rest

@[simp] theorem after_nil : after s [] = s := rfl

@[simp] theorem after_cons (rest : List (Errand σ)) :
    after s (errand :: rest) = after (errand.run s).final rest := rfl

/-! ## One call -/

variable {errand s}

/-- A call asks where nothing is proven. -/
theorem asks_of_unproven (unproven : (errand.arrive s).Unproven errand.workspace) :
    errand.Asks s := by
  rcases provisionCalls_cases errand.server errand.workspace errand.source errand.reporter?
    (errand.arrive s) with ⟨proven, _⟩ | ⟨_, d, events, _⟩
  · exact absurd unproven proven
  · refine ⟨.latest Server.package, ?_, rfl⟩
    rw [seen, events]
    exact d.latest_mem_events _ _ _

/-- A call that is not seen does not ask. -/
theorem not_asks (unseen : errand.seen s = []) : ¬ errand.Asks s := by simp [Asks, unseen]

/-- The rules of a call. -/
theorem ensured : Ensured errand.server errand.workspace errand.source errand.reporter?
    (errand.arrive s) (errand.run s) :=
  ensured_run _ _ _ _ _

/-- A call that gives a script without asking found it, in a confirmed session. -/
theorem trusts_of_not_asks (returned : errand.Returns s) (silent : ¬ errand.Asks s) :
    s.confirmed = true ∧
      (errand.arrive s).world.disk.isFile errand.workspace.entryScript = .ok true := by
  obtain ⟨script, ok⟩ := returned
  have h := errand.ensured (s := s)
  generalize errand.run s = r at h ok
  cases h with
  | trusted confirmed look => exact ⟨confirmed, look⟩
  | provisioned unproven _ => exact absurd (asks_of_unproven unproven) silent
  | unseen _ _ | failed _ _ _ | faulted _ _ => cases ok

/-- A session is confirmed after a call if it was before or the call gives a script. -/
theorem confirmed_run_iff :
    (errand.run s).final.confirmed = true ↔ s.confirmed = true ∨ errand.Returns s :=
  errand.ensured.confirmed_iff

/-! ## Several calls -/

/-- A session that becomes confirmed does so by a call that asked and gave a script. -/
theorem exists_of_confirmed (unconfirmed : s.confirmed = false) {errands : List (Errand σ)}
    (confirmed : (after s errands).confirmed = true) :
    ∃ before first between, errands = before ++ first :: between ∧
      first.Returns (after s before) ∧ first.Asks (after s before) := by
  induction errands generalizing s with
  | nil => rw [after_nil, unconfirmed] at confirmed; cases confirmed
  | cons errand rest ih =>
    -- The first call that gives a script is the one: until then nothing is confirmed.
    by_cases returned : errand.Returns s
    · exact ⟨[], errand, rest, rfl, returned, asks_of_unproven (.inl unconfirmed)⟩
    · have still : (errand.run s).final.confirmed = false := by
        rw [← Bool.not_eq_true, confirmed_run_iff]
        simp [unconfirmed, returned]
      obtain ⟨before, first, between, split, results⟩ := ih still confirmed
      exact ⟨errand :: before, first, between, by rw [split]; rfl, results⟩

/-- **Where trust comes from.** In a session that starts unconfirmed, a call that gives a
script without asking the registry found that script there, and some earlier call asked and
gave a script, for this workspace or another one. -/
theorem trust_of_earlier_success (unconfirmed : s.confirmed = false)
    (earlier : List (Errand σ)) (returned : errand.Returns (after s earlier))
    (silent : ¬ errand.Asks (after s earlier)) :
    (errand.arrive (after s earlier)).world.disk.isFile errand.workspace.entryScript =
        .ok true ∧
      ∃ before first between, earlier = before ++ first :: between ∧
        first.Returns (after s before) ∧ first.Asks (after s before) := by
  obtain ⟨confirmed, look⟩ := trusts_of_not_asks returned silent
  exact ⟨look, exists_of_confirmed unconfirmed confirmed⟩

end Errand

/-! ### Two workspaces in one session -/

namespace Twins

/-- A source that finds every copy up to date. -/
def source : PackageSource Unit where
  latest _ := pure (.ofText "1.10.4")
  install _ _ _ := pure ()
  installed? _ _ := pure (some (.ofText "1.10.4"))

/-- The entries of a workspace that holds a copy of the server. -/
def copy (name : String) : List (Location × Entry) :=
  [([name], .directory), (["node_modules", name], .directory),
    (["intelephense", "node_modules", name], .directory),
    (["lib", "intelephense", "node_modules", name], .directory),
    (["intelephense.js", "lib", "intelephense", "node_modules", name], .file [] 0o644)]

/-- A session with a copy of the server in two workspaces. -/
def session : Session Unit where
  world :=
    { disk := ⟨⟨copy "a" ++ copy "b"⟩, .ofLocation []⟩
      environment := []
      executable := ""
      userCache := ""
      depths := .usual
      replies := []
      endings := []
      memory := () }
  confirmed := false

/-- A call for the script of a workspace, nothing having happened. -/
def visit (root : String) : Errand Unit where
  since := id
  server := Server.id
  workspace := .host root []
  source := source
  reporter? := none

/-- The session after the first workspace was visited. -/
def visited : Session Unit := Errand.after session [visit "/a"]

theorem returns_second : (visit "/b").Returns visited := ⟨_, rfl⟩

theorem not_asks_second : ¬ (visit "/b").Asks visited := Errand.not_asks rfl

end Twins

namespace Errand

/-- The copy in the second workspace is trusted after the first one was checked. -/
theorem trust_in_second_workspace :
    (Twins.visit "/b").Returns (after Twins.session [Twins.visit "/a"]) ∧
      ¬ (Twins.visit "/b").Asks (after Twins.session [Twins.visit "/a"]) ∧
      ((Twins.visit "/b").arrive (after Twins.session [Twins.visit "/a"])).world.disk.isFile
          (Twins.visit "/b").workspace.entryScript = .ok true ∧
      ∃ before first between, [Twins.visit "/a"] = before ++ first :: between ∧
        first.Returns (after Twins.session before) ∧
        first.Asks (after Twins.session before) :=
  ⟨Twins.returns_second, Twins.not_asks_second,
    trust_of_earlier_success rfl _ Twins.returns_second Twins.not_asks_second⟩

/-- Trust is not a matter of the workspace: a call may give a script without asking although
no earlier call of the session was for its root. -/
theorem trust_without_own_success :
    ¬ ∀ (s : Session Unit) (earlier : List (Errand Unit)) (errand : Errand Unit),
      s.confirmed = false → errand.Returns (after s earlier) →
      ¬ errand.Asks (after s earlier) →
      ∃ before first between, earlier = before ++ first :: between ∧
        first.Returns (after s before) ∧ first.workspace.root = errand.workspace.root := by
  intro claim
  obtain ⟨before, first, between, split, _, root⟩ := claim Twins.session [Twins.visit "/a"]
    (Twins.visit "/b") rfl Twins.returns_second Twins.not_asks_second
  have only : first ∈ [Twins.visit "/a"] := by simp [split]
  rw [List.mem_singleton.1 only] at root
  exact absurd root (by decide)

end Errand

end ServerLaunch
