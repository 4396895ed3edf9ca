import ServerLaunch.Proofs.Querying

/-!
# Running the installer

An installation finds its program, sees to its cache directory and runs the program to its
end. The last two steps can meet a fault. One that the system reports is explained as a failure
of the installation, and then a copy that is there makes up for it. Any other fault, of a value
that cannot be handed to the system or of output that cannot be read, is passed on as it is,
and no copy helps.

## Main definitions

* `Npm.cacheOn`: the cache directory, and the disk once it was seen to.
* `Npm.Installed`: how an installation ends.
* `Npm.Escapes`: a fault leaves an installation.

**Main statements.** The rules cover every run and leave no choice (`installed_iff`), and a
fault leaves an installation exactly if it escapes (`outcome_install_eq_fault_iff`).
-/
namespace ServerLaunch

namespace Npm

variable {σ : Type} (npm : Npm) (package : String) (version : Version) (directory : String)

/-! ## How an installation ends -/

/-- The cache directory, and the disk once it was seen to. One that is set is taken as it is. -/
def cacheOn (m : Machine) : Except Fault Path × Disk :=
  match npm.cacheDir? with
  | some path => (.ok path, m.disk)
  | none =>
    ((m.disk.makeDirectories m.depths.directories m.cacheDir).1.map fun _ => m.cacheDir,
      (m.disk.makeDirectories m.depths.directories m.cacheDir).2)

theorem run_useCacheDir (w : World σ) :
    npm.useCacheDir.run w =
      ⟨(npm.cacheOn w.toMachine).1.mapError .fault,
        { w with disk := (npm.cacheOn w.toMachine).2 }, []⟩ := by
  unfold useCacheDir cacheOn
  cases npm.cacheDir? with
  | some path => rfl
  | none =>
    simp only [World.makeCacheDir, Action.run_bind, World.run_view, World.run_changeFiles]
    rcases w.disk.makeDirectories w.depths.directories w.cacheDir with ⟨_ | _, disk⟩ <;> rfl

/-- A process ends as the next one does on the files as they are. -/
theorem run_process {w : World σ} {arguments : List String} {directory : String}
    {outcome : Except Fault Exit} {disk disk' : Disk}
    (ended : w.nextEnding.effect disk = (outcome, disk')) :
    (World.process arguments directory).run { w with disk := disk } =
      ⟨outcome.mapError .fault, { w with disk := disk', endings := w.endings.tail },
        [.process arguments directory]⟩ := by
  have same : ({ w with disk := disk } : World σ).nextEnding = w.nextEnding := rfl
  simp only [World.process, same, ended]

/-- How an installation ends. The process is seen whenever one is run, whether or not it ends
well. -/
inductive Installed (w : World σ) : Run (World σ) Unit → Prop
  | unequipped (missing : npm.find? w.toMachine = none) :
      Installed w ⟨.error (InstallFlaw.noInstaller.toFailure package version), w, []⟩
  | uncached {program : String} {fault : Fault} {disk : Disk}
      (found : npm.find? w.toMachine = some program)
      (seen : npm.cacheOn w.toMachine = (.error fault, disk)) :
      Installed w ⟨.error (explain package version .noCache (.fault fault)),
        { w with disk := disk }, []⟩
  | broken {program : String} {cache : Path} {fault : Fault} {disk disk' : Disk}
      (found : npm.find? w.toMachine = some program)
      (seen : npm.cacheOn w.toMachine = (.ok cache, disk))
      (ended : w.nextEnding.effect disk = (.error fault, disk')) :
      Installed w ⟨.error (explain package version .notStarted (.fault fault)),
        { w with disk := disk', endings := w.endings.tail },
        [.process (arguments program cache.text package version directory) directory]⟩
  | exited {program : String} {cache : Path} {exit : Exit} {disk disk' : Disk}
      (found : npm.find? w.toMachine = some program)
      (seen : npm.cacheOn w.toMachine = (.ok cache, disk))
      (ended : w.nextEnding.effect disk = (.ok exit, disk')) (code : exit.code ≠ 0) :
      Installed w
        ⟨.error ((InstallFlaw.exited exit.code (complaintTail exit.complaint?)).toFailure
            package version),
          { w with disk := disk', endings := w.endings.tail },
          [.process (arguments program cache.text package version directory) directory]⟩
  | done {program : String} {cache : Path} {exit : Exit} {disk disk' : Disk}
      (found : npm.find? w.toMachine = some program)
      (seen : npm.cacheOn w.toMachine = (.ok cache, disk))
      (ended : w.nextEnding.effect disk = (.ok exit, disk')) (code : exit.code = 0) :
      Installed w ⟨.ok (), { w with disk := disk', endings := w.endings.tail },
        [.process (arguments program cache.text package version directory) directory]⟩

variable {npm package version directory} in
theorem Installed.run_eq {w : World σ} {r : Run (World σ) Unit}
    (h : npm.Installed package version directory w r) :
    (npm.install package version directory).run w = r := by
  cases h with
  | unequipped missing => simp [install, Action.run_bind, missing]
  | uncached found seen => simp [install, Action.run_bind, found, run_useCacheDir, seen]
  | broken found seen ended =>
    simp [install, Action.run_bind, found, run_useCacheDir, seen, run_process ended]
  | exited found seen ended code =>
    simp [install, Action.run_bind, found, run_useCacheDir, seen, run_process ended, code]
  | done found seen ended code =>
    simp [install, Action.run_bind, found, run_useCacheDir, seen, run_process ended, code]

/-- The rules of an installation are what is done. -/
theorem installed_iff (w : World σ) (r : Run (World σ) Unit) :
    npm.Installed package version directory w r ↔
      (npm.install package version directory).run w = r := by
  apply iff_eq_of_covered Installed.run_eq
  cases found : npm.find? w.toMachine with
  | none => exact ⟨_, .unequipped found⟩
  | some program =>
    rcases seen : npm.cacheOn w.toMachine with ⟨fault | cache, disk⟩
    · exact ⟨_, .uncached found seen⟩
    · rcases ended : w.nextEnding.effect disk with ⟨fault | exit, disk'⟩
      · exact ⟨_, .broken found seen ended⟩
      · by_cases code : exit.code = 0
        · exact ⟨_, .done found seen ended code⟩
        · exact ⟨_, .exited found seen ended code⟩

/-! ## Faults that leave an installation -/

/-- What an installation meets leaves it as a fault: the cache directory or the process meets
one that the system does not report. -/
inductive Escapes (m : Machine) : Fault → Prop
  | cache {program : String} {fault : Fault} {disk : Disk}
      (found : npm.find? m = some program) (seen : npm.cacheOn m = (.error fault, disk))
      (foreign : fault.isSystem = false) : Escapes m fault
  | process {program : String} {cache : Path} {fault : Fault} {disk disk' : Disk}
      (found : npm.find? m = some program) (seen : npm.cacheOn m = (.ok cache, disk))
      (ended : m.nextEnding.effect disk = (.error fault, disk'))
      (foreign : fault.isSystem = false) : Escapes m fault

/-- A fault of an installation is reported if the system reports it, and passed on otherwise. -/
theorem explain_cases (flaw : Fault → InstallFlaw) (fault : Fault) :
    (fault.isSystem = true ∧ ∃ report cause?,
        explain package version flaw (.fault fault) =
          .launch (.install package version report cause?)) ∨
      (fault.isSystem = false ∧ explain package version flaw (.fault fault) = .fault fault) := by
  rw [explain]
  cases fault.isSystem <;> simp [InstallFlaw.toFailure]

variable {npm package version directory}

/-- An installation goes well or reports a failure of its own, unless a fault escapes. -/
theorem Installed.cases {w : World σ} {r : Run (World σ) Unit}
    (h : npm.Installed package version directory w r) :
    r.outcome = .ok () ∨
      (∃ report cause?, r.outcome =
        .error (.launch (.install package version report cause?))) ∨
      ∃ fault, npm.Escapes w.toMachine fault ∧ r.outcome = .error (.fault fault) := by
  cases h with
  | unequipped _ | exited _ _ _ _ => exact .inr (.inl ⟨_, _, rfl⟩)
  | uncached found seen =>
    rcases explain_cases package version .noCache _ with
      ⟨_, report, cause?, same⟩ | ⟨foreign, same⟩
    · exact .inr (.inl ⟨report, cause?, congrArg Except.error same⟩)
    · exact .inr (.inr ⟨_, .cache found seen foreign, congrArg Except.error same⟩)
  | broken found seen ended =>
    rcases explain_cases package version .notStarted _ with
      ⟨_, report, cause?, same⟩ | ⟨foreign, same⟩
    · exact .inr (.inl ⟨report, cause?, congrArg Except.error same⟩)
    · exact .inr (.inr ⟨_, .process found seen ended foreign, congrArg Except.error same⟩)
  | done _ _ _ _ => exact .inl rfl

/-- What escapes is how the installation ends. -/
theorem Escapes.outcome_install {w : World σ} {fault : Fault}
    (escapes : npm.Escapes w.toMachine fault) :
    ((npm.install package version directory).run w).outcome = .error (.fault fault) := by
  cases escapes with
  | cache found seen foreign =>
    rw [(Installed.uncached found seen).run_eq]
    simp [explain, foreign]
  | process found seen ended foreign =>
    rw [(Installed.broken found seen ended).run_eq]
    simp [explain, foreign]

/-- An installation ends with a fault exactly if the fault escapes. -/
theorem outcome_install_eq_fault_iff {w : World σ} {fault : Fault} :
    ((npm.install package version directory).run w).outcome = .error (.fault fault) ↔
      npm.Escapes w.toMachine fault := by
  refine ⟨fun ended => ?_, Escapes.outcome_install⟩
  have installed := (npm.installed_iff package version directory w _).2 rfl
  rcases installed.cases with well | ⟨_, _, reported⟩ | ⟨other, escapes, raised⟩
  · exact nomatch ended.symm.trans well
  · exact nomatch ended.symm.trans reported
  · cases ended.symm.trans raised
    exact escapes

/-- With a copy that is there, an installation that fails gives the copy, unless a fault
escapes from it. -/
theorem outcome_ensured_of_failed {registry : Registry} {server : String}
    {workspace : Workspace} {reporter? : Option (Reporter σ)} {s : Session σ} {w : World σ}
    (installs : Installs server workspace (source registry npm) reporter? s version w)
    (copy : ((npm.install Server.package version workspace.root).run w).final.disk.isFile
      workspace.entryScript = .ok true)
    (failed : ((npm.install Server.package version workspace.root).run w).outcome ≠ .ok ()) :
    let given :=
      ((ensureInstalled server workspace (source registry npm) reporter?).run s).outcome
    (given = .ok workspace.entryScript ↔ ∀ fault, ¬ npm.Escapes w.toMachine fault) ∧
      ∀ fault, given = .error (.fault fault) ↔ npm.Escapes w.toMachine fault := by
  intro given
  have installed := (npm.installed_iff Server.package version workspace.root w _).2 rfl
  rcases installed.cases with well | ⟨_, _, reported⟩ | ⟨fault, escapes, raised⟩
  · exact absurd well failed
  · have same : given = .ok workspace.entryScript :=
      outcome_ensured_of_install installs (congrArg (Run.mk · _ _) reported) copy
    have kept : ∀ fault, ¬ npm.Escapes w.toMachine fault := fun _ escapes =>
      nomatch reported.symm.trans escapes.outcome_install
    simp [same, kept]
  · have same : given = .error (.fault fault) :=
      outcome_ensured_of_install installs (congrArg (Run.mk · _ _) raised) copy
    have only : ∀ other, npm.Escapes w.toMachine other ↔ fault = other := by
      intro other
      rw [← outcome_install_eq_fault_iff, raised, Except.error.injEq, Failure.fault.injEq]
    simp [same, only]

/-! ## What is reported -/

variable (npm package version directory)

/-- **Which failures of an installation are reported.** Whatever it meets, an installation goes
well or fails with an error that says so and names the package and the version, unless its
cache directory or its process meets a fault that the system does not report; then just this
fault leaves the installation. The same decides whether a copy that is there makes up for an
installation that failed. -/
theorem install_reported_iff (w : World σ) :
    let ended := ((npm.install package version directory).run w).outcome
    (ended = .ok () ∨
        (∃ report cause?, ended = .error (.launch (.install package version report cause?))) ↔
      ∀ fault, ¬ npm.Escapes w.toMachine fault) ∧
    (∀ fault, ended = .error (.fault fault) ↔ npm.Escapes w.toMachine fault) ∧
    ∀ (registry : Registry) (server : String) (workspace : Workspace)
      (reporter? : Option (Reporter σ)) (s : Session σ) (latest : Version)
      (installing : World σ),
      Installs server workspace (source registry npm) reporter? s latest installing →
      let installation := (npm.install Server.package latest workspace.root).run installing
      installation.final.disk.isFile workspace.entryScript = .ok true →
      installation.outcome ≠ .ok () →
      let given :=
        ((ensureInstalled server workspace (source registry npm) reporter?).run s).outcome
      (given = .ok workspace.entryScript ↔ ∀ fault, ¬ npm.Escapes installing.toMachine fault) ∧
        ∀ fault, given = .error (.fault fault) ↔ npm.Escapes installing.toMachine fault := by
  intro ended
  refine ⟨?_, fun fault => outcome_install_eq_fault_iff, ?_⟩
  · have installed := (npm.installed_iff package version directory w _).2 rfl
    simp only [← @outcome_install_eq_fault_iff σ npm package version directory]
    rcases installed.cases with same | ⟨_, _, same⟩ | ⟨_, _, same⟩ <;> simp [ended, same]
  · intro registry server workspace reporter? s latest installing installs installation copy failed
    exact outcome_ensured_of_failed installs copy failed

/-! ### Failures that are not reported -/

namespace Halted

/-- An installer with everything set. -/
def installer : Npm := ⟨some "/npm", some (.ofText "/c")⟩

/-- The registry that is asked and the installer. -/
def packages : PackageSource Unit := source Registry.Asked.standard installer

/-- A session with a copy of the server: the registry states a version, and the process meets a
fault. -/
def session (fault : Fault) : Session Unit :=
  ⟨⟨{ Stale.machine with
      replies := [.answers (Registry.Asked.answer 200)]
      endings := [.refused fault] }, ()⟩, false⟩

/-- The world of the session once the registry was asked. -/
def installing (fault : Fault) : World Unit := { (session fault).world with replies := [] }

/-- The version that is stated is not the one of the copy, so it is installed. -/
theorem installs (fault : Fault) :
    Installs Server.id Stale.workspace packages none (session fault) (.ofText "1.10.4")
      (installing fault) := by
  have taken : ¬ (Registry.Asked.answer 200).Refuses := by
    simp [Response.Refuses, Registry.Asked.answer]
  have stated : (packages.latest Server.package).run
      ((report none Server.id .checkingForUpdate).run (session fault).world).final =
        ⟨.ok (.ofText "1.10.4"), installing fault,
          [.request (Registry.Asked.standard.latestUrl Server.package)
            Registry.Asked.standard.timeout]⟩ :=
    (Registry.run_latest _ _ _).trans
      (congrArg (Run.mk · _ _) (Registry.Asked.reading_answer taken))
  have unstated : (packages.installed? Server.package Stale.workspace.root).run
      (installing fault) = ⟨.ok none, installing fault, []⟩ := rfl
  exact .outdated (.inl rfl) (run_announced_of stated) (.stated rfl unstated rfl)

theorem escapes {fault : Fault} (foreign : fault.isSystem = false) :
    installer.Escapes (installing fault).toMachine fault :=
  .process rfl rfl rfl foreign

end Halted

/-- No copy makes up for a value that cannot be handed to the system. -/
theorem install_reported_halted :
    ((ensureInstalled Server.id Stale.workspace Halted.packages none).run
      (Halted.session .nulInPath)).outcome = .error (.fault .nulInPath) := by
  have escapes : Halted.installer.Escapes (Halted.installing .nulInPath).toMachine .nulInPath :=
    Halted.escapes rfl
  refine (((install_reported_iff Halted.installer Server.package (.ofText "1.10.4") "/p"
    (Halted.installing .nulInPath)).2.2 _ _ _ none _ _ _ (Halted.installs _) rfl ?_).2 _).2
    escapes
  exact fun well => nomatch escapes.outcome_install.symm.trans well

/-- An installation does not report a fault of a value that its process meets. -/
theorem install_unreported :
    ¬ ∀ (npm : Npm) (package : String) (version : Version) (directory : String)
        (w : World Unit) (message : String), w.nextEnding = .refused (.value message) →
        let ended := ((npm.install package version directory).run w).outcome
        ended = .ok () ∨
          ∃ report cause?, ended = .error (.launch (.install package version report cause?)) := by
  intro claim
  rcases claim Halted.installer Server.package (.ofText "1.10.4") "/p"
      (Halted.installing .nulInPath) _ rfl with
    ended | ⟨_, _, ended⟩ <;> cases ended

end Npm

end ServerLaunch
