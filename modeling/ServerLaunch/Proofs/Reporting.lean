import ServerLaunch.Proofs.Sessions

/-!
# Reporters have no say

A host is told of the stages by a reporter of its own, which may fail and may remember what
it was told. A reporter that keeps its hands off the machine and off the source changes
nothing but what the host is told: the outcome, the files, the memory of the source, what is
confirmed and every call to the source are those of a launcher without a reporter.

The memory of a reporter stands beside the memory of the source, and neither is in reach of
the other. A launcher with a reporter is compared with the one without through the view that
forgets the reporter's memory. Whatever is built from parts that agree through a view agrees
through it, so only the reports themselves have to be looked at.

## Main definitions

* `Action.Follows`: an action agrees with another through a view of the state, reports apart.
* `World.apart`, `Session.apart`: the view without the reporter's memory.
* `PackageSource.beside`, `Extension.reportingTo`: a source and an extension whose reporter
  has a memory of its own.
* `Reporter.Discreet`: a reporter changes nothing but its own memory.
* `Call.shown`: a call without its reports.

**Main statements.** With a discreet reporter provisioning and launching follow the launcher
without one (`follows_ensureInstalled`, `Extension.follows_command`), over whole runs
(`Extension.history_shown`).
-/
namespace ServerLaunch

/-! ## Following -/

/-- A run follows another through a view of the state: it ends in the same way, leaves what
the other leaves, and makes the same calls to the source. -/
structure Run.Follows {S T α : Type} (view : S → T) (r : Run S α) (r' : Run T α) : Prop where
  outcome : r.outcome = r'.outcome
  final : view r.final = r'.final
  contacts : r.events.filter Event.isContact = r'.events.filter Event.isContact

/-- An action follows another through a view of the state if all its runs do. -/
def Action.Follows {S T α : Type} (view : S → T) (a : Action S α) (b : Action T α) : Prop :=
  ∀ s, (a.run s).Follows view (b.run (view s))

namespace Action.Follows

variable {S T α β : Type} {view : S → T} {a : Action S α} {b : Action T α}

theorem pure (value : α) :
    Follows view (Pure.pure value : Action S α) (Pure.pure value : Action T α) :=
  fun _ => ⟨rfl, rfl, rfl⟩

theorem fail (failure : Failure) :
    Follows view (Action.fail failure : Action S α) (Action.fail failure : Action T α) :=
  fun _ => ⟨rfl, rfl, rfl⟩

/-- Looking at what the view shows. -/
theorem observe {f : S → Except Failure α} {g : T → Except Failure α}
    (same : ∀ s, f s = g (view s)) : Follows view (Action.observe f) (Action.observe g) :=
  fun s => ⟨same s, rfl, rfl⟩

/-- Changing what the view shows. -/
theorem update {f : S → S} {g : T → T} (same : ∀ s, view (f s) = g (view s)) :
    Follows view (Action.update f) (Action.update g) :=
  fun s => ⟨rfl, same s, rfl⟩

theorem attempt (h : Follows view a b) : Follows view a.attempt b.attempt :=
  fun s => ⟨congrArg Except.ok (h s).outcome, (h s).final, (h s).contacts⟩

/-- What follows on both sides of a question follows. -/
theorem ite {c : Prop} [Decidable c] {a' : Action S α} {b' : Action T α} (yes : Follows view a b)
    (no : Follows view a' b') : Follows view (if c then a else a') (if c then b else b') := by
  split
  · exact yes
  · exact no

/-- What follows step by step follows as a whole. -/
theorem bind {f : α → Action S β} {g : α → Action T β} (first : Follows view a b)
    (next : ∀ value, Follows view (f value) (g value)) : Follows view (a >>= f) (b >>= g) := by
  intro s
  obtain ⟨outcome, final, contacts⟩ := first s
  rw [run_bind, run_bind, ← outcome, ← final]
  cases (a.run s).outcome with
  | error failure => exact ⟨rfl, final ▸ rfl, contacts⟩
  | ok value =>
    have rest := next value (a.run s).final
    exact ⟨rest.outcome, rest.final, by simp [contacts, rest.contacts]⟩

end Action.Follows

/-! ## A memory for the reporter -/

variable {σ ρ α : Type}

/-- The world without what a reporter remembers. -/
def World.apart (w : World (σ × ρ)) : World σ := ⟨w.toMachine, w.memory.1⟩

/-- The world as a source leaves it that cannot reach the reporter's memory. -/
def World.refill (w : World (σ × ρ)) (left : World σ) : World (σ × ρ) :=
  ⟨left.toMachine, (left.memory, w.memory.2)⟩

/-- The session without what a reporter remembers. -/
def Session.apart (s : Session (σ × ρ)) : Session σ := ⟨s.world.apart, s.confirmed⟩

/-- The same source beside the memory of a reporter. -/
def PackageSource.beside (source : PackageSource σ) : PackageSource (σ × ρ) where
  latest package := (source.latest package).within World.apart World.refill
  install package version directory :=
    (source.install package version directory).within World.apart World.refill
  installed? package directory :=
    (source.installed? package directory).within World.apart World.refill

/-- A reporter changes nothing but its own memory. It may fail whenever it likes. -/
def Reporter.Discreet (reporter : Reporter (σ × ρ)) : Prop :=
  ∀ server status w, ((reporter server status).run w).final.apart = w.apart

/-! ## Provisioning without reports -/

theorem follows_onWorld {a : Action (World (σ × ρ)) α} {b : Action (World σ) α}
    (h : a.Follows World.apart b) :
    (Session.onWorld a).Follows Session.apart (Session.onWorld b) :=
  fun s => ⟨(h s.world).outcome, congrArg (Session.mk · s.confirmed) (h s.world).final,
    (h s.world).contacts⟩

theorem follows_isFile (path : Path) :
    (World.isFile path : Action (World (σ × ρ)) Bool).Follows World.apart (World.isFile path) :=
  .observe fun _ => rfl

/-- A call to a source beside the memory of a reporter, seen by an observer. -/
theorem follows_call (event : Event) (a : Action (World σ) α) :
    (do .emit event; (a.within World.apart World.refill).muted :
        Action (World (σ × ρ)) α).Follows World.apart (do .emit event; a.muted) := by
  intro w
  simp only [Action.run_bind, Action.run_emit, Action.run_muted, Action.run_within]
  exact ⟨rfl, rfl, rfl⟩

theorem follows_fallBack (script : Path) (failure : Failure) :
    (fallBack script failure : Action (World (σ × ρ)) Unit).Follows World.apart
      (fallBack script failure) := by
  exact (follows_isFile script).bind fun _ => .ite (.fail failure) (.pure ())

theorem follows_stillConfirmed (script : Path) :
    (stillConfirmed script : Action (Session (σ × ρ)) Bool).Follows Session.apart
      (stillConfirmed script) := by
  have confirmed : (Action.observe fun session => .ok session.confirmed :
      Action (Session (σ × ρ)) Bool).Follows Session.apart
        (.observe fun session => .ok session.confirmed) := .observe fun _ => rfl
  exact confirmed.bind fun _ => .ite (follows_onWorld (follows_isFile script)) (.pure false)

section

variable {reporter? : Option (Reporter (σ × ρ))} (discreet : ∀ r ∈ reporter?, r.Discreet)
  (server : String) (workspace : Workspace) (source : PackageSource σ)

theorem follows_upToDate (latest : Version) :
    (upToDate source.beside.watched workspace latest : Action (World (σ × ρ)) Bool).Follows
      World.apart (upToDate source.watched workspace latest) := by
  exact (follows_isFile workspace.entryScript).bind fun _ =>
    .ite ((follows_call _ (source.installed? _ _)).bind fun _ => .pure _) (.pure false)

theorem follows_installVersion (version : Version) :
    (installVersion source.beside.watched workspace version :
        Action (World (σ × ρ)) Unit).Follows World.apart
      (installVersion source.watched workspace version) := by
  apply (follows_call _ (source.install _ _ _)).attempt.bind
  intro outcome
  cases outcome with
  | ok _ => exact follows_fallBack workspace.entryScript _
  | error failure =>
    exact .ite (follows_fallBack workspace.entryScript failure) (.fail failure)

include discreet

/-- A report is as if it were none. -/
theorem follows_report (status : Status) :
    (report (reporter?.map Reporter.watched) server status).Follows World.apart
      (report none server status) := by
  intro w
  rw [run_report_watched]
  cases reporter? with
  | none => exact ⟨rfl, rfl, rfl⟩
  | some reporter =>
    have kept := discreet reporter rfl server status w
    exact ⟨rfl, by simpa [report, Action.run_map] using kept, rfl⟩

theorem follows_provision :
    (provision server workspace source.beside.watched
        (reporter?.map Reporter.watched)).Follows World.apart
      (provision server workspace source.watched none) := by
  apply (follows_report discreet server _).bind
  intro _
  apply (follows_call _ (source.latest _)).attempt.bind
  intro outcome
  cases outcome with
  | error failure =>
    exact .ite (follows_fallBack workspace.entryScript failure) (.fail failure)
  | ok latest =>
    have download := (follows_report discreet server .downloading).bind fun _ =>
      follows_installVersion workspace source latest
    exact (follows_upToDate workspace source latest).bind fun _ => .ite download (.pure ())

theorem follows_reportFailure (failure : Failure) :
    (reportFailure (reporter?.map Reporter.watched) server failure).Follows World.apart
      (reportFailure none server failure) := by
  cases failure with
  | launch _ => exact follows_report discreet server .failed
  | fault _ => exact .pure ()

/-- Provisioning follows provisioning without a reporter. -/
theorem follows_ensureInstalled :
    (ensureInstalled server workspace source.beside.watched
        (reporter?.map Reporter.watched)).Follows Session.apart
      (ensureInstalled server workspace source.watched none) := by
  apply (follows_stillConfirmed workspace.entryScript).bind
  intro still
  cases still with
  | true => exact .pure _
  | false =>
    simp only [Bool.not_false, if_true]
    apply (follows_onWorld (follows_provision discreet server workspace source)).attempt.bind
    intro outcome
    cases outcome with
    | ok _ =>
      have noted : (Action.update fun session => { session with confirmed := true } :
          Action (Session (σ × ρ)) Unit).Follows Session.apart
            (.update fun session => { session with confirmed := true }) := .update fun _ => rfl
      exact noted.bind fun _ => .pure _
    | error failure =>
      have told := follows_onWorld (follows_reportFailure discreet server failure)
      exact told.bind fun _ => (Action.Follows.fail failure).bind fun _ => .pure _

end

/-! ## Launching without reports -/

namespace Extension

/-- The same extension for a host whose reporter has a memory of its own. -/
def reportingTo (e : Extension σ) (reporter? : Option (Reporter (σ × ρ))) : Extension (σ × ρ) where
  settings := e.settings
  source := e.source.beside
  reporter? := reporter?

/-- The same extension for a host that is told nothing. -/
def untold (e : Extension σ) : Extension σ := { e with reporter? := none }

theorem follows_look (f : Machine → Except Failure α) :
    (look f : Action (Session (σ × ρ)) α).Follows Session.apart (look f) :=
  .observe fun _ => rfl

variable {reporter? : Option (Reporter (σ × ρ))} (discreet : ∀ r ∈ reporter?, r.Discreet)
  (e : Extension σ) (server : String) (workspace : Workspace)

theorem follows_bridge (script : Path) :
    ((e.reportingTo reporter?).watched.bridge workspace script).Follows Session.apart
      (e.untold.watched.bridge workspace script) :=
  (follows_look _).bind fun _ => (follows_look _).bind fun _ => .pure _

include discreet

theorem follows_serverFor :
    ((e.reportingTo reporter?).watched.serverFor server workspace).Follows Session.apart
      (e.untold.watched.serverFor server workspace) := by
  apply (follows_look _).bind
  intro located?
  cases located? with
  | some located => exact .pure located
  | none =>
    have ensured := follows_ensureInstalled discreet server workspace e.source
    exact .ite (ensured.bind fun _ => .pure _) (.fail _)

/-- A launch follows the launch without a reporter. -/
theorem follows_command :
    ((e.reportingTo reporter?).watched.command server workspace).Follows Session.apart
      (e.untold.watched.command server workspace) := by
  refine .ite (.fail _) ?_
  exact (follows_serverFor discreet e server workspace).bind fun located =>
    .ite (.pure _) (follows_bridge e workspace located.path)

end Extension

/-! ## Whole runs -/

/-- A call without its reports: how it ends, what a view shows of the session it leaves, and
the calls to the source. -/
def Call.shown {S : Type} (view : Session σ → S) (c : Call σ) : Run S Descriptor :=
  ⟨c.run.outcome, view c.run.final, c.seen.filter Event.isContact⟩

namespace Extension

variable {reporter? : Option (Reporter (σ × ρ))} (discreet : ∀ r ∈ reporter?, r.Discreet)
  (e : Extension σ)

include discreet

/-- A call shows what it shows without a reporter. -/
theorem shown_meet (s : Session (σ × ρ)) (request : Request) :
    ((e.reportingTo reporter?).meet s request).shown Session.apart =
      (e.untold.meet s.apart request).shown id := by
  have h := follows_command discreet { e with settings := request.settings } request.server
    request.workspace ((e.reportingTo reporter?).meet s request).before
  rw [run_command_watched, run_command_watched] at h
  obtain ⟨outcome, final, contacts⟩ := h
  simp only [Call.shown, Run.mk.injEq]
  exact ⟨outcome, final, contacts⟩

/-- A call leaves what it leaves without a reporter. -/
theorem apart_run_meet (s : Session (σ × ρ)) (request : Request) :
    ((e.reportingTo reporter?).meet s request).run.final.apart =
      (e.untold.meet s.apart request).run.final :=
  congrArg Run.final (e.shown_meet discreet s request)

/-- A run shows what it shows without a reporter, call by call. -/
theorem history_shown (s : Session (σ × ρ)) (requests : List Request) :
    ((e.reportingTo reporter?).history s requests).map (Call.shown Session.apart) =
      (e.untold.history s.apart requests).map (Call.shown id) := by
  induction requests generalizing s with
  | nil => rfl
  | cons request rest ih =>
    simp only [history_cons, List.map_cons]
    rw [e.shown_meet discreet, ih, e.apart_run_meet discreet]

/-- A run leaves what it leaves without a reporter. -/
theorem after_apart (s : Session (σ × ρ)) (requests : List Request) :
    ((e.reportingTo reporter?).after s requests).apart = e.untold.after s.apart requests := by
  induction requests generalizing s with
  | nil => rfl
  | cons request rest ih => rw [after_cons, after_cons, ih, e.apart_run_meet discreet]

omit discreet in
/-- **Reporters have no say.** Two launchers that differ only in their reporters, each of which
touches nothing but a memory of its own and may fail whenever it likes, do the same but for
the reports: provisioning ends in the same way, leaves the same machine, memory of the source
and confirmation, and makes the same calls to the source; and so does every call of a run. -/
theorem discreet_reporters_agree {ρ₁ ρ₂ : Type} {r₁? : Option (Reporter (σ × ρ₁))}
    {r₂? : Option (Reporter (σ × ρ₂))} (discreet₁ : ∀ r ∈ r₁?, r.Discreet)
    (discreet₂ : ∀ r ∈ r₂?, r.Discreet) {s₁ : Session (σ × ρ₁)} {s₂ : Session (σ × ρ₂)}
    (same : s₁.apart = s₂.apart) :
    (∀ server workspace,
      let run₁ := (ensureInstalled server workspace e.source.beside r₁?).run s₁
      let run₂ := (ensureInstalled server workspace e.source.beside r₂?).run s₂
      run₁.outcome = run₂.outcome ∧ run₁.final.apart = run₂.final.apart ∧
        (provisionCalls server workspace e.source.beside r₁? s₁).filter Event.isContact =
          (provisionCalls server workspace e.source.beside r₂? s₂).filter Event.isContact) ∧
      ∀ requests,
        ((e.reportingTo r₁?).history s₁ requests).map (Call.shown Session.apart) =
            ((e.reportingTo r₂?).history s₂ requests).map (Call.shown Session.apart) ∧
          ((e.reportingTo r₁?).after s₁ requests).apart =
            ((e.reportingTo r₂?).after s₂ requests).apart := by
  refine ⟨fun server workspace => ?_, fun requests => ⟨?_, ?_⟩⟩
  · have h₁ := follows_ensureInstalled discreet₁ server workspace e.source s₁
    have h₂ := follows_ensureInstalled discreet₂ server workspace e.source s₂
    rw [run_ensureInstalled_watched, same] at h₁
    rw [run_ensureInstalled_watched] at h₂
    exact ⟨h₁.outcome.trans h₂.outcome.symm, h₁.final.trans h₂.final.symm,
      h₁.contacts.trans h₂.contacts.symm⟩
  · rw [e.history_shown discreet₁, e.history_shown discreet₂, same]
  · rw [e.after_apart discreet₁, e.after_apart discreet₂, same]

end Extension

/-! ### A reporter that fails every other time -/

/-- A reporter that counts what it is told and fails every other time. -/
def Reporter.faltering : Reporter (σ × Nat) := fun server status => do
  .emit (.status server status)
  .update fun w => { w with memory := (w.memory.1, w.memory.2 + 1) }
  let count ← .observe fun w => .ok w.memory.2
  if count % 2 = 0 then .fail (.fault (.runtime "the window is gone"))

theorem Reporter.discreet_faltering : (faltering : Reporter (σ × Nat)).Discreet := by
  intro server status w
  simp only [faltering, Action.run_bind, Action.run_emit, Action.run_update, Action.run_observe]
  split <;> rfl

theorem Reporter.discreet_recording : (recording : Reporter (σ × ρ)).Discreet :=
  fun _ _ _ => rfl

/-- The faltering reporter has no say in two launches of a stale copy. -/
theorem Extension.faltering_reporter_agrees :
    let s₁ : Session (Unit × Unit) := ⟨⟨Stale.machine, ((), ())⟩, false⟩
    let s₂ : Session (Unit × Nat) := ⟨⟨Stale.machine, ((), 0)⟩, false⟩
    let launch : Request := ⟨id, {}, Server.id, Stale.workspace⟩
    let recorded := Stale.extension.reportingTo (some .recording)
    let faltered := Stale.extension.reportingTo (some .faltering)
    (∀ r ∈ some (Reporter.recording : Reporter (Unit × Unit)), r.Discreet) ∧
      (∀ r ∈ some (Reporter.faltering : Reporter (Unit × Nat)), r.Discreet) ∧
      s₁.apart = s₂.apart ∧
      (recorded.history s₁ [launch, launch]).map (Call.shown Session.apart) =
        (faltered.history s₂ [launch, launch]).map (Call.shown Session.apart) := by
  intro s₁ s₂ launch recorded faltered
  have discreet₁ : ∀ r ∈ some (Reporter.recording : Reporter (Unit × Unit)), r.Discreet := by
    rintro _ ⟨⟩
    exact Reporter.discreet_recording
  have discreet₂ : ∀ r ∈ some (Reporter.faltering : Reporter (Unit × Nat)), r.Discreet := by
    rintro _ ⟨⟩
    exact Reporter.discreet_faltering
  exact ⟨discreet₁, discreet₂, rfl,
    ((Stale.extension.discreet_reporters_agree discreet₁ discreet₂ rfl).2 _).1⟩

end ServerLaunch
