import ServerLaunch.Provision

/-!
# What provisioning comes to

How a call for the server's script ends, said as rules over what the source answers and
whether the script is there at the moment it is looked for. The source and the reporter
may do anything to the world in between, so every rule names the world it looks at.

The rules follow the course of one check: the host is told and the registry is asked; the
version that is there is compared with the answer; if it is another one, or none, the host
is told and the latest version is installed. What is there at the end decides, after a
failure that a copy makes up for as after an installation that went well.

## Main definitions

* `queryStep`, `installStep`: what is asked of the source, each after telling the host.
* `unlessThere`: a failure, unless the script is there.
* `Compared`: how the version that is there is compared with the latest.
* `Provisioned`: how one check ends.
* `Ensured`: how a call ends in a session.
* `Queries`, `Installs`: the world in which a call asks the registry, and in which it installs.

**Main statements.** The rules cover every run and leave no choice (`compared_iff`,
`provisioned_iff`, `ensured_run`). A copy that is there makes up for a query or an installation
that failed as one, and for no other failure (`outcome_ensured_of_query`,
`outcome_ensured_of_install`).
-/
namespace ServerLaunch

variable {σ α : Type} (server : String) (workspace : Workspace) (source : PackageSource σ)
  (reporter? : Option (Reporter σ))

/-! ## Telling and asking -/

/-- Whatever the reporter does, the launcher goes on. -/
@[simp] theorem outcome_report (status : Status) (w : World σ) :
    ((report reporter? server status).run w).outcome = .ok () := by
  cases reporter? with
  | none => rfl
  | some reporter => simp [report, Action.run_map, Except.map]

/-- Tell the host of a stage, then act. -/
def announced (status : Status) (action : Action (World σ) α) : Action (World σ) α := do
  report reporter? server status
  action

/-- An announced action ends as the action does where the host was told. -/
theorem run_announced (status : Status) (action : Action (World σ) α) (w : World σ) :
    (announced server reporter? status action).run w =
      let told := (report reporter? server status).run w
      ⟨(action.run told.final).outcome, (action.run told.final).final,
        told.events ++ (action.run told.final).events⟩ := by
  simp [announced, Action.run_bind]

variable {server reporter?} in
theorem run_announced_of {status : Status} {action : Action (World σ) α} {w w' : World σ}
    {outcome : Except Failure α} {seen : List Event}
    (ran : action.run ((report reporter? server status).run w).final = ⟨outcome, w', seen⟩) :
    (announced server reporter? status action).run w =
      ⟨outcome, w', ((report reporter? server status).run w).events ++ seen⟩ := by
  simp only [run_announced, ran]

/-- Telling the host is no part of what may fail. -/
theorem announced_attempt (status : Status) (action : Action (World σ) α) :
    announced server reporter? status action.attempt =
      (announced server reporter? status action).attempt := by
  apply Action.ext
  funext w
  simp [run_announced]

/-- Tell the host, then ask for the latest version. -/
def queryStep : Action (World σ) Version :=
  announced server reporter? .checkingForUpdate (source.latest Server.package)

/-- Tell the host, then install a version. -/
def installStep (version : Version) : Action (World σ) Unit :=
  announced server reporter? .downloading
    (source.install Server.package version workspace.root)

/-! ## What a copy makes up for -/

/-- All is well if the script is there, and otherwise the failure stands. A look that fails
itself is a failure of its own. -/
def unlessThere (found : Except Fault Bool) (failure : Failure) : Except Failure Unit :=
  match found with
  | .ok true => .ok ()
  | .ok false => .error failure
  | .error fault => .error (.fault fault)

/-- The failure of an installation that went well and did not bring the script. -/
def scriptMissing : Failure := .launch (.installedPathMissing Server.package Server.entryScript)

/-- Falling back looks at the files once and changes nothing. -/
theorem run_fallBack (script : Path) (failure : Failure) (w : World σ) :
    (fallBack script failure).run w =
      ⟨unlessThere (w.disk.isFile script) failure, w, []⟩ := by
  simp only [fallBack, Action.run_bind, World.run_isFile]
  rcases w.disk.isFile script with fault | there
  · rfl
  · cases there <;> rfl

/-! ## Comparing -/

/-- How the version that is there is compared with the latest one. A version is asked for
only where the script is. -/
inductive Compared (latest : Version) (w : World σ) : Run (World σ) Bool → Prop
  | unseen {fault : Fault} (look : w.disk.isFile workspace.entryScript = .error fault) :
      Compared latest w ⟨.error (.fault fault), w, []⟩
  | absent (look : w.disk.isFile workspace.entryScript = .ok false) :
      Compared latest w ⟨.ok false, w, []⟩
  | raised {failure : Failure} {w' : World σ} {seen : List Event}
      (look : w.disk.isFile workspace.entryScript = .ok true)
      (stated : (source.installed? Server.package workspace.root).run w =
        ⟨.error failure, w', seen⟩) :
      Compared latest w ⟨.error failure, w', seen⟩
  | stated {installed? : Option Version} {w' : World σ} {seen : List Event} {same : Bool}
      (look : w.disk.isFile workspace.entryScript = .ok true)
      (stated : (source.installed? Server.package workspace.root).run w =
        ⟨.ok installed?, w', seen⟩)
      (agrees : Version.agrees installed? latest = same) :
      Compared latest w ⟨.ok same, w', seen⟩

variable {workspace source} in
theorem Compared.run_eq {latest : Version} {w : World σ} {r : Run (World σ) Bool}
    (h : Compared workspace source latest w r) : (upToDate source workspace latest).run w = r := by
  cases h with
  | unseen look => simp [upToDate, Action.run_bind, look]
  | absent look => simp [upToDate, Action.run_bind, look]
  | raised look stated =>
    simp [upToDate, Action.run_bind, Action.run_map, look, stated, Except.map]
  | stated look stated agrees =>
    simp [upToDate, Action.run_bind, Action.run_map, look, stated, agrees, Except.map]

/-- The rules of comparing are what is done. -/
theorem compared_iff (latest : Version) (w : World σ) (r : Run (World σ) Bool) :
    Compared workspace source latest w r ↔ (upToDate source workspace latest).run w = r := by
  -- It is enough that some rule applies: which one it is determines what is done.
  apply iff_eq_of_covered Compared.run_eq
  rcases look : w.disk.isFile workspace.entryScript with fault | there
  · exact ⟨_, .unseen look⟩
  · cases there with
    | false => exact ⟨_, .absent look⟩
    | true =>
      rcases stated : (source.installed? Server.package workspace.root).run w
        with ⟨failure | installed?, w', seen⟩
      · exact ⟨_, .raised look stated⟩
      · exact ⟨_, .stated look stated rfl⟩

/-! ## One check -/

/-- What is done after an installation, given how it ended. -/
def afterInstall (script : Path) : Except Failure Unit → Action (World σ) Unit
  | .ok () => fallBack script scriptMissing
  | .error failure => if failure.isInstall then fallBack script failure else .fail failure

theorem installVersion_eq (latest : Version) :
    (do report reporter? server .downloading; installVersion source workspace latest) =
      (installStep server workspace source reporter? latest).attempt >>=
        afterInstall workspace.entryScript := by
  -- The report is moved inside the attempt, which it cannot make fail.
  rw [installStep, ← announced_attempt, announced, bind_assoc]
  apply bind_congr
  intro _
  rw [installVersion]
  apply bind_congr
  intro outcome
  cases outcome <;> rfl

/-- A check as a query, a comparison and an installation. -/
theorem provision_eq :
    provision server workspace source reporter? = (do
      match ← (queryStep server source reporter?).attempt with
      | .error failure =>
        if failure.isVersionQuery then fallBack workspace.entryScript failure
        else .fail failure
      | .ok latest =>
        if !(← upToDate source workspace latest) then
          (installStep server workspace source reporter? latest).attempt >>=
            afterInstall workspace.entryScript) := by
  rw [queryStep, ← announced_attempt, announced, bind_assoc, provision]
  apply bind_congr
  intro _
  apply bind_congr
  intro outcome
  cases outcome with
  | error failure => rfl
  | ok latest =>
    simp only
    apply bind_congr
    intro current
    cases current with
    | true => rfl
    | false => exact installVersion_eq server workspace source reporter? latest

/-- How one check ends. -/
inductive Provisioned (w : World σ) : Run (World σ) Unit → Prop
  | queryRaised {failure : Failure} {w₁ : World σ} {seen₁ : List Event}
      (asked : (queryStep server source reporter?).run w = ⟨.error failure, w₁, seen₁⟩)
      (other : failure.isVersionQuery = false) :
      Provisioned w ⟨.error failure, w₁, seen₁⟩
  | queryFailed {failure : Failure} {w₁ : World σ} {seen₁ : List Event}
      (asked : (queryStep server source reporter?).run w = ⟨.error failure, w₁, seen₁⟩)
      (query : failure.isVersionQuery = true) :
      Provisioned w ⟨unlessThere (w₁.disk.isFile workspace.entryScript) failure, w₁, seen₁⟩
  | notCompared {latest : Version} {failure : Failure} {w₁ w₂ : World σ}
      {seen₁ seen₂ : List Event}
      (asked : (queryStep server source reporter?).run w = ⟨.ok latest, w₁, seen₁⟩)
      (compared : Compared workspace source latest w₁ ⟨.error failure, w₂, seen₂⟩) :
      Provisioned w ⟨.error failure, w₂, seen₁ ++ seen₂⟩
  | upToDate {latest : Version} {w₁ w₂ : World σ} {seen₁ seen₂ : List Event}
      (asked : (queryStep server source reporter?).run w = ⟨.ok latest, w₁, seen₁⟩)
      (compared : Compared workspace source latest w₁ ⟨.ok true, w₂, seen₂⟩) :
      Provisioned w ⟨.ok (), w₂, seen₁ ++ seen₂⟩
  | installRaised {latest : Version} {failure : Failure} {w₁ w₂ w₃ : World σ}
      {seen₁ seen₂ seen₃ : List Event}
      (asked : (queryStep server source reporter?).run w = ⟨.ok latest, w₁, seen₁⟩)
      (compared : Compared workspace source latest w₁ ⟨.ok false, w₂, seen₂⟩)
      (done : (installStep server workspace source reporter? latest).run w₂ =
        ⟨.error failure, w₃, seen₃⟩)
      (other : failure.isInstall = false) :
      Provisioned w ⟨.error failure, w₃, seen₁ ++ seen₂ ++ seen₃⟩
  | installFailed {latest : Version} {failure : Failure} {w₁ w₂ w₃ : World σ}
      {seen₁ seen₂ seen₃ : List Event}
      (asked : (queryStep server source reporter?).run w = ⟨.ok latest, w₁, seen₁⟩)
      (compared : Compared workspace source latest w₁ ⟨.ok false, w₂, seen₂⟩)
      (done : (installStep server workspace source reporter? latest).run w₂ =
        ⟨.error failure, w₃, seen₃⟩)
      (install : failure.isInstall = true) :
      Provisioned w ⟨unlessThere (w₃.disk.isFile workspace.entryScript) failure, w₃,
        seen₁ ++ seen₂ ++ seen₃⟩
  | installed {latest : Version} {w₁ w₂ w₃ : World σ} {seen₁ seen₂ seen₃ : List Event}
      (asked : (queryStep server source reporter?).run w = ⟨.ok latest, w₁, seen₁⟩)
      (compared : Compared workspace source latest w₁ ⟨.ok false, w₂, seen₂⟩)
      (done : (installStep server workspace source reporter? latest).run w₂ =
        ⟨.ok (), w₃, seen₃⟩) :
      Provisioned w ⟨unlessThere (w₃.disk.isFile workspace.entryScript) scriptMissing, w₃,
        seen₁ ++ seen₂ ++ seen₃⟩

variable {server workspace source reporter?} in
theorem Provisioned.run_eq {w : World σ} {r : Run (World σ) Unit}
    (h : Provisioned server workspace source reporter? w r) :
    (provision server workspace source reporter?).run w = r := by
  rw [provision_eq]
  cases h with
  | queryRaised asked other => simp [Action.run_bind, asked, other]
  | queryFailed asked query => simp [Action.run_bind, asked, query, run_fallBack]
  | notCompared asked compared => simp [Action.run_bind, asked, compared.run_eq]
  | upToDate asked compared => simp [Action.run_bind, asked, compared.run_eq]
  | installRaised asked compared done other =>
    simp [Action.run_bind, asked, compared.run_eq, done, afterInstall, other]
  | installFailed asked compared done install =>
    simp [Action.run_bind, asked, compared.run_eq, done, afterInstall, install, run_fallBack]
  | installed asked compared done =>
    simp [Action.run_bind, asked, compared.run_eq, done, afterInstall, run_fallBack]

/-- The rules of a check are what is done. -/
theorem provisioned_iff (w : World σ) (r : Run (World σ) Unit) :
    Provisioned server workspace source reporter? w r ↔
      (provision server workspace source reporter?).run w = r := by
  apply iff_eq_of_covered Provisioned.run_eq
  rcases asked : (queryStep server source reporter?).run w with ⟨failure | latest, w₁, seen₁⟩
  · cases query : failure.isVersionQuery with
    | false => exact ⟨_, .queryRaised asked query⟩
    | true => exact ⟨_, .queryFailed asked query⟩
  · rcases looked : (upToDate source workspace latest).run w₁
      with ⟨failure | current, w₂, seen₂⟩
    · exact ⟨_, .notCompared asked ((compared_iff workspace source latest w₁ _).2 looked)⟩
    · have compared := (compared_iff workspace source latest w₁ _).2 looked
      cases current with
      | true => exact ⟨_, .upToDate asked compared⟩
      | false =>
        rcases done : (installStep server workspace source reporter? latest).run w₂
          with ⟨failure | _, w₃, seen₃⟩
        · cases install : failure.isInstall with
          | false => exact ⟨_, .installRaised asked compared done install⟩
          | true => exact ⟨_, .installFailed asked compared done install⟩
        · exact ⟨_, .installed asked compared done⟩

/-! ## A call in a session -/

/-- Nothing was confirmed in the session, or the script that was is gone. -/
def Session.Unproven (s : Session σ) : Prop :=
  s.confirmed = false ∨ s.world.disk.isFile workspace.entryScript = .ok false

/-- What is not unproven was confirmed, and its script is not known to be gone. -/
theorem Session.not_unproven_iff {s : Session σ} :
    ¬ s.Unproven workspace ↔
      s.confirmed = true ∧ s.world.disk.isFile workspace.entryScript ≠ .ok false := by
  rw [Session.Unproven, not_or, Bool.not_eq_false]

/-- How a call for the server's script ends in a session. Only a launch error is told to the
host, and only a success is remembered. -/
inductive Ensured (s : Session σ) : Run (Session σ) Path → Prop
  | trusted (confirmed : s.confirmed = true)
      (look : s.world.disk.isFile workspace.entryScript = .ok true) :
      Ensured s ⟨.ok workspace.entryScript, s, []⟩
  | unseen {fault : Fault} (confirmed : s.confirmed = true)
      (look : s.world.disk.isFile workspace.entryScript = .error fault) :
      Ensured s ⟨.error (.fault fault), s, []⟩
  | provisioned {w : World σ} {seen : List Event} (unproven : s.Unproven workspace)
      (check : Provisioned server workspace source reporter? s.world ⟨.ok (), w, seen⟩) :
      Ensured s ⟨.ok workspace.entryScript, ⟨w, true⟩, seen⟩
  | failed {error : LaunchError} {w w' : World σ} {seen seen' : List Event}
      (unproven : s.Unproven workspace)
      (check : Provisioned server workspace source reporter? s.world
        ⟨.error (.launch error), w, seen⟩)
      (told : (report reporter? server .failed).run w = ⟨.ok (), w', seen'⟩) :
      Ensured s ⟨.error (.launch error), ⟨w', s.confirmed⟩, seen ++ seen'⟩
  | faulted {fault : Fault} {w : World σ} {seen : List Event}
      (unproven : s.Unproven workspace)
      (check : Provisioned server workspace source reporter? s.world
        ⟨.error (.fault fault), w, seen⟩) :
      Ensured s ⟨.error (.fault fault), ⟨w, s.confirmed⟩, seen⟩

/-- A session that confirmed something trusts what it sees. -/
theorem run_stillConfirmed_of_confirmed {s : Session σ} (confirmed : s.confirmed = true)
    (script : Path) :
    (stillConfirmed script).run s = ⟨(s.world.disk.isFile script).mapError .fault, s, []⟩ := by
  obtain ⟨world, flag⟩ := s
  subst confirmed
  simp [stillConfirmed, Session.onWorld, Action.run_bind]

theorem run_stillConfirmed_of_unproven {s : Session σ} (unproven : s.Unproven workspace) :
    (stillConfirmed workspace.entryScript).run s = ⟨.ok false, s, []⟩ := by
  cases confirmed : s.confirmed with
  | false => simp [stillConfirmed, Action.run_bind, confirmed]
  | true =>
    rw [run_stillConfirmed_of_confirmed confirmed]
    rcases unproven with unconfirmed | look
    · simp [confirmed] at unconfirmed
    · simp [look]

variable {server workspace source reporter?} in
/-- The rules say what is done. -/
theorem Ensured.run_eq {s : Session σ} {r : Run (Session σ) Path}
    (h : Ensured server workspace source reporter? s r) :
    (ensureInstalled server workspace source reporter?).run s = r := by
  cases h with
  | trusted confirmed look =>
    simp [ensureInstalled, Action.run_bind, run_stillConfirmed_of_confirmed confirmed, look]
  | unseen confirmed look =>
    simp [ensureInstalled, Action.run_bind, run_stillConfirmed_of_confirmed confirmed, look]
  | provisioned unproven check =>
    simp [ensureInstalled, Session.onWorld, Action.run_bind, Action.run_map,
      run_stillConfirmed_of_unproven workspace unproven, check.run_eq, Except.map]
  | failed unproven check told =>
    simp [ensureInstalled, Session.onWorld, Action.run_bind, Action.run_map, reportFailure,
      run_stillConfirmed_of_unproven workspace unproven, check.run_eq, told, Except.map]
  | faulted unproven check =>
    simp [ensureInstalled, Session.onWorld, Action.run_bind, Action.run_map, reportFailure,
      run_stillConfirmed_of_unproven workspace unproven, check.run_eq, Except.map]

/-- Some rule covers every call. -/
theorem ensured_run (s : Session σ) :
    Ensured server workspace source reporter? s
      ((ensureInstalled server workspace source reporter?).run s) := by
  refine (iff_eq_of_covered Ensured.run_eq ?_ _).2 rfl
  by_cases unproven : s.Unproven workspace
  · rcases done : (provision server workspace source reporter?).run s.world
      with ⟨failure | _, w, seen⟩
    · have check := (provisioned_iff server workspace source reporter? _ _).2 done
      cases failure with
      | launch error =>
        rcases told : (report reporter? server .failed).run w with ⟨outcome, w', seen'⟩
        have went_on := outcome_report server reporter? .failed w
        rw [told] at went_on
        cases went_on
        exact ⟨_, .failed unproven check told⟩
      | fault fault => exact ⟨_, .faulted unproven check⟩
    · have check := (provisioned_iff server workspace source reporter? _ _).2 done
      exact ⟨_, .provisioned unproven check⟩
  · rw [Session.not_unproven_iff] at unproven
    rcases look : s.world.disk.isFile workspace.entryScript with fault | there
    · exact ⟨_, .unseen unproven.1 look⟩
    · cases there with
      | true => exact ⟨_, .trusted unproven.1 look⟩
      | false => exact absurd look unproven.2

/-! ## The script at the end -/

/-- Asking the source for the version in a workspace leaves the files alone. -/
def PackageSource.StatesOnly : Prop :=
  ∀ w : World σ, ((source.installed? Server.package workspace.root).run w).final.disk = w.disk

theorem unlessThere_eq_ok {found : Except Fault Bool} {failure : Failure}
    (h : unlessThere found failure = .ok ()) : found = .ok true := by
  unfold unlessThere at h
  split at h
  · rfl
  · cases h
  · cases h

variable {server workspace source reporter?}

/-- A version that is found to be the latest belongs to a script that is there, and that
still is after the question for it. -/
theorem Compared.present_of_same (frame : source.StatesOnly workspace) {latest : Version}
    {w w' : World σ} {seen : List Event}
    (h : Compared workspace source latest w ⟨.ok true, w', seen⟩) :
    w'.disk.isFile workspace.entryScript = .ok true := by
  cases h with
  | stated look stated agrees =>
    have kept := frame w
    rw [stated] at kept
    rw [kept, look]

/-- After a check that went well the script is there. -/
theorem Provisioned.present (frame : source.StatesOnly workspace) {w : World σ}
    {r : Run (World σ) Unit} (h : Provisioned server workspace source reporter? w r)
    (ok : r.outcome = .ok ()) : r.final.disk.isFile workspace.entryScript = .ok true := by
  cases h with
  | queryRaised _ _ => cases ok
  | queryFailed _ _ => exact unlessThere_eq_ok ok
  | notCompared _ _ => cases ok
  | upToDate _ compared => exact compared.present_of_same frame
  | installRaised _ _ _ _ => cases ok
  | installFailed _ _ _ _ => exact unlessThere_eq_ok ok
  | installed _ _ _ => exact unlessThere_eq_ok ok

/-- A call that gives a script gives the one of the workspace. -/
theorem Ensured.script_eq {s s' : Session σ} {script : Path} {seen : List Event}
    (h : Ensured server workspace source reporter? s ⟨.ok script, s', seen⟩) :
    script = workspace.entryScript := by
  cases h with
  | trusted _ _ | provisioned _ _ => rfl

/-- A call that gives a script gives the one of the workspace, and it is there. -/
theorem Ensured.present (frame : source.StatesOnly workspace) {s s' : Session σ}
    {script : Path} {seen : List Event}
    (h : Ensured server workspace source reporter? s ⟨.ok script, s', seen⟩) :
    script = workspace.entryScript ∧ s'.world.disk.isFile script = .ok true := by
  cases h with
  | trusted _ look => exact ⟨rfl, look⟩
  | provisioned _ check => exact ⟨rfl, check.present frame rfl⟩

/-- A session is confirmed after a call if it was before or the call gives a script, and
only then. -/
theorem Ensured.confirmed_iff {s : Session σ} {r : Run (Session σ) Path}
    (h : Ensured server workspace source reporter? s r) :
    r.final.confirmed = true ↔ s.confirmed = true ∨ ∃ script, r.outcome = .ok script := by
  cases h with
  | trusted confirmed _ => simp [confirmed]
  | unseen confirmed _ => simp [confirmed]
  | provisioned _ _ => simp
  | failed _ _ _ => simp
  | faulted _ _ => simp

/-! ## A copy that makes up for a failure -/

/-- A check that is called for decides how the call ends. -/
theorem Provisioned.outcome_ensured {s : Session σ} {r : Run (World σ) Unit}
    (check : Provisioned server workspace source reporter? s.world r)
    (unproven : s.Unproven workspace) :
    ((ensureInstalled server workspace source reporter?).run s).outcome =
      r.outcome.map fun _ => workspace.entryScript := by
  rcases r with ⟨failure | _, w, seen⟩
  · cases failure with
    | launch error =>
      have told : (report reporter? server .failed).run w = ⟨.ok (), _, _⟩ :=
        congrArg (Run.mk · _ _) (outcome_report server reporter? .failed w)
      rw [(Ensured.failed unproven check told).run_eq]
      rfl
    | fault fault =>
      rw [(Ensured.faulted unproven check).run_eq]
      rfl
  · rw [(Ensured.provisioned unproven check).run_eq]
    rfl

variable (server workspace reporter?) in
/-- A call in a session asks the registry, in the world as it is when the host was told. -/
inductive Queries (s : Session σ) : World σ → Prop
  | unproven (unproven : s.Unproven workspace) :
      Queries s ((report reporter? server .checkingForUpdate).run s.world).final

/-- A query that fails gives the copy that is there, if a copy makes up for the failure. -/
theorem outcome_ensured_of_query {s : Session σ} {w w' : World σ} {failure : Failure}
    {seen : List Event} (queries : Queries server workspace reporter? s w)
    (failed : (source.latest Server.package).run w = ⟨.error failure, w', seen⟩)
    (copy : w'.disk.isFile workspace.entryScript = .ok true) :
    ((ensureInstalled server workspace source reporter?).run s).outcome =
      if failure.isVersionQuery then .ok workspace.entryScript else .error failure := by
  obtain ⟨unproven⟩ := queries
  have asked := run_announced_of failed
  cases query : failure.isVersionQuery with
  | true =>
    rw [(Provisioned.queryFailed asked query).outcome_ensured unproven, copy]
    rfl
  | false =>
    rw [(Provisioned.queryRaised asked query).outcome_ensured unproven]
    rfl

variable (server workspace source reporter?) in
/-- A call in a session installs a version, in the world as it is when the host was told. -/
inductive Installs (s : Session σ) (version : Version) : World σ → Prop
  | outdated {w₁ w₂ : World σ} {seen₁ seen₂ : List Event} (unproven : s.Unproven workspace)
      (asked : (queryStep server source reporter?).run s.world = ⟨.ok version, w₁, seen₁⟩)
      (compared : Compared workspace source version w₁ ⟨.ok false, w₂, seen₂⟩) :
      Installs s version ((report reporter? server .downloading).run w₂).final

/-- An installation that fails gives the copy that is there, if a copy makes up for the
failure. -/
theorem outcome_ensured_of_install {s : Session σ} {version : Version} {w w' : World σ}
    {failure : Failure} {seen : List Event}
    (installs : Installs server workspace source reporter? s version w)
    (failed : (source.install Server.package version workspace.root).run w =
      ⟨.error failure, w', seen⟩)
    (copy : w'.disk.isFile workspace.entryScript = .ok true) :
    ((ensureInstalled server workspace source reporter?).run s).outcome =
      if failure.isInstall then .ok workspace.entryScript else .error failure := by
  cases installs with
  | @outdated _ w₂ _ _ unproven asked compared =>
    have done := run_announced_of failed
    cases install : failure.isInstall with
    | true =>
      rw [(Provisioned.installFailed asked compared done install).outcome_ensured unproven, copy]
      rfl
    | false =>
      rw [(Provisioned.installRaised asked compared done install).outcome_ensured unproven]
      rfl

variable (server workspace source reporter?)

/-- **How a call for the server's script ends.** The rules cover every run and leave no
choice, whatever the source and the reporter do. With watched partners the events are the
calls, so the rules also say which calls are made. -/
theorem run_ensureInstalled_eq_iff (s : Session σ) (r : Run (Session σ) Path) :
    (ensureInstalled server workspace source reporter?).run s = r ↔
      Ensured server workspace source reporter? s r := by
  constructor
  · rintro rfl
    exact ensured_run server workspace source reporter? s
  · exact Ensured.run_eq

end ServerLaunch
