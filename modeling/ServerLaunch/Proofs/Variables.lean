import ServerLaunch.Proofs.Validation

/-!
# Settings from variables

Each setting has a variable, and the registry has two of them: the launcher's own one and the
package manager's. A variable counts if it is set to something. A setting is read off its
variable, or it keeps its default, and the settings are then checked as they are when they are
given. Four things can be wrong, each whatever the other variables hold. They are looked for in
an order, and the first one that is there is reported.

## Main definitions

* `Settings.Fills`: a variable is set to something.
* `Settings.Takes`: a setting is read off its variable, or it is the default.
* `Settings.Taken`: all settings are.
* `Settings.Wrong`: something is wrong with variables.
* `SettingsFlaw.rank`: the place of a flaw in the order in which flaws are looked for.

**Main statements.** Settings that are read are the settings that are taken, checked
(`ofEnvironment_of_taken`), and what is reported is the first thing that is wrong
(`ofEnvironment_eq_error_iff`).
-/
namespace ServerLaunch

/-- The place of a flaw in the order in which flaws are looked for. -/
def SettingsFlaw.rank : SettingsFlaw → Nat
  | notBoolean _ _ => 0
  | notNumber _ _ => 1
  | timeoutNotPositive _ => 2
  | registryNotHttp _ => 3

namespace Settings

variable {α : Type}

/-- The names of the variables that settings are read from. -/
def variableNames : List String :=
  ["LARAVEL_LSP_AUTO_INSTALL", "LARAVEL_LSP_NODE_PATH", "LARAVEL_LSP_EXTENSION_DIR",
    "LARAVEL_LSP_NPM_REGISTRY", "NPM_CONFIG_REGISTRY", "LARAVEL_LSP_REQUEST_TIMEOUT"]

/-! ## One variable -/

section

variable (environment : List (String × String)) (name : String)

/-- A variable is set to something. -/
def Fills (value : String) : Prop := environment.lookup name = some value ∧ value ≠ ""

/-- A setting is what its variable reads as; one whose variable is not filled is the default. -/
inductive Takes (read : String → Option α) (default : α) : α → Prop
  | filled {value : String} {setting : α} (fills : Fills environment name value)
      (reads : read value = some setting) : Takes read default setting
  | unfilled (empty : ∀ value, ¬ Fills environment name value) : Takes read default default

end

variable {environment environment' : List (String × String)} {name : String}
  {read : String → Option α} {default setting : α}

theorem filled?_eq_some_iff {value : String} :
    filled? environment name = some value ↔ Fills environment name value := by
  simp [filled?, Fills, Option.filter_eq_some_iff]

theorem filled?_eq_none_iff :
    filled? environment name = none ↔ ∀ value, ¬ Fills environment name value := by
  simp [Option.eq_none_iff_forall_ne_some, filled?_eq_some_iff]

/-- A setting is taken by a look at what the variable is filled with. -/
theorem takes_iff :
    Takes environment name read default setting ↔
      (filled? environment name).elim (setting = default) (read · = some setting) := by
  cases filled : filled? environment name with
  | none =>
    rw [filled?_eq_none_iff] at filled
    refine ⟨?_, ?_⟩
    · rintro (⟨fills, _⟩ | _)
      · exact absurd fills (filled _)
      · rfl
    · rintro rfl
      exact .unfilled filled
  | some value =>
    rw [filled?_eq_some_iff] at filled
    refine ⟨?_, fun reads => .filled filled reads⟩
    rintro (⟨fills, reads⟩ | empty)
    · cases fills.1.symm.trans filled.1
      exact reads
    · exact absurd filled (empty value)

/-- A variable tells the same setting whenever it is asked. -/
theorem Takes.unique {other : α} (taken : Takes environment name read default setting)
    (taken' : Takes environment name read default other) : setting = other := by
  rw [takes_iff] at taken taken'
  cases filled : filled? environment name with
  | none => simp_all
  | some value =>
    rw [filled] at taken taken'
    exact Option.some.inj (taken.symm.trans taken')

/-- A setting can be taken, or the variable is filled with what cannot be read. -/
theorem exists_takes_or (environment : List (String × String)) (name : String)
    (read : String → Option α) (default : α) :
    (∃ setting, Takes environment name read default setting) ∨
      ∃ value, Fills environment name value ∧ read value = none := by
  cases filled : filled? environment name with
  | none => exact .inl ⟨default, .unfilled (filled?_eq_none_iff.1 filled)⟩
  | some value =>
    have fills := filled?_eq_some_iff.1 filled
    cases reads : read value with
    | none => exact .inr ⟨value, fills, reads⟩
    | some setting => exact .inl ⟨setting, .filled fills reads⟩

/-! ## All variables -/

/-- The registry is taken from the launcher's own variable, or else from the package manager's. -/
def TakesRegistry (environment : List (String × String)) (registry : String) : Prop :=
  ∃ other, Takes environment "NPM_CONFIG_REGISTRY" some Server.defaultRegistry other ∧
    Takes environment "LARAVEL_LSP_NPM_REGISTRY" some other registry

/-- Settings are taken from variables, each one from its own. -/
structure Taken (environment : List (String × String)) (settings : Settings) : Prop where
  autoInstall :
    Takes environment "LARAVEL_LSP_AUTO_INSTALL" readSwitch? true settings.autoInstall
  nodePath : Takes environment "LARAVEL_LSP_NODE_PATH" (some ∘ some) none settings.nodePath?
  extensionDir :
    Takes environment "LARAVEL_LSP_EXTENSION_DIR" (some ∘ some) none settings.extensionDir?
  registry : TakesRegistry environment settings.registry
  timeout :
    Takes environment "LARAVEL_LSP_REQUEST_TIMEOUT" Number.read? (.ofNat 30) settings.timeout

/-- Something is wrong with variables, whatever else is. -/
inductive Wrong (environment : List (String × String)) : SettingsFlaw → Prop
  | switch {value : String} (fills : Fills environment "LARAVEL_LSP_AUTO_INSTALL" value)
      (unread : readSwitch? value = none) :
      Wrong environment (.notBoolean "LARAVEL_LSP_AUTO_INSTALL" value)
  | number {value : String} (fills : Fills environment "LARAVEL_LSP_REQUEST_TIMEOUT" value)
      (unread : Number.read? value = none) :
      Wrong environment (.notNumber "LARAVEL_LSP_REQUEST_TIMEOUT" value)
  | timeout {timeout : Number.Binary64}
      (taken : Takes environment "LARAVEL_LSP_REQUEST_TIMEOUT" Number.read? (.ofNat 30) timeout)
      (spent : timeout.atMostZero = true) : Wrong environment (.timeoutNotPositive timeout)
  | registry {registry : String} (taken : TakesRegistry environment registry)
      (unreached : ¬ HasScheme registry) : Wrong environment (.registryNotHttp registry)

theorem filled?_of_takes {setting? : Option String}
    (taken : Takes environment name (some ∘ some) none setting?) :
    filled? environment name = setting? := by
  rw [takes_iff] at taken
  cases filled : filled? environment name <;> simp_all

theorem registryOf_eq_iff {registry : String} :
    registryOf environment Server.defaultRegistry = registry ↔
      TakesRegistry environment registry := by
  simp only [TakesRegistry, takes_iff, registryOf]
  cases filled? environment "LARAVEL_LSP_NPM_REGISTRY" <;>
    cases filled? environment "NPM_CONFIG_REGISTRY" <;> simp [eq_comm]

/-- What comes of a variable whose words may not be readable. -/
def readAs (environment : List (String × String)) (name : String) (read : String → Option α)
    (flaw : String → SettingsFlaw) (default : α) : Except SettingsFlaw α :=
  match filled? environment name with
  | none => .ok default
  | some value => match read value with
    | some setting => .ok setting
    | none => .error (flaw value)

section

variable {flaw : String → SettingsFlaw}

theorem readAs_of_takes (taken : Takes environment name read default setting) :
    readAs environment name read flaw default = .ok setting := by
  rw [takes_iff] at taken
  unfold readAs
  cases filled : filled? environment name <;> simp_all

theorem readAs_of_unread {value : String} (fills : Fills environment name value)
    (unread : read value = none) :
    readAs environment name read flaw default = .error (flaw value) := by
  simp [readAs, filled?_eq_some_iff.2 fills, unread]

end

theorem switchOf_eq (default : Bool) :
    switchOf environment name default =
      readAs environment name readSwitch? (.notBoolean name) default := by
  unfold switchOf readAs
  cases filled? environment name with
  | none => rfl
  | some value => cases read : readSwitch? value <;> simp [read]

theorem numberOf_eq (default : Number.Binary64) :
    numberOf environment name default =
      readAs environment name Number.read? (.notNumber name) default := by
  unfold numberOf readAs
  cases filled? environment name with
  | none => rfl
  | some value => cases read : Number.read? value <;> simp [read]

/-- Both words are read before the settings are checked. -/
theorem ofEnvironment_eq (environment : List (String × String)) :
    ofEnvironment environment =
      (readAs environment "LARAVEL_LSP_AUTO_INSTALL" readSwitch?
        (.notBoolean "LARAVEL_LSP_AUTO_INSTALL") true).bind fun autoInstall =>
      (readAs environment "LARAVEL_LSP_REQUEST_TIMEOUT" Number.read?
        (.notNumber "LARAVEL_LSP_REQUEST_TIMEOUT") (.ofNat 30)).bind fun timeout =>
      validate
        { autoInstall
          nodePath? := filled? environment "LARAVEL_LSP_NODE_PATH"
          extensionDir? := filled? environment "LARAVEL_LSP_EXTENSION_DIR"
          registry := registryOf environment Server.defaultRegistry
          timeout } := by
  rw [← switchOf_eq, ← numberOf_eq]
  rfl

/-- Settings that are taken from variables are checked as if they were given. -/
theorem ofEnvironment_of_taken {settings : Settings} (taken : Taken environment settings) :
    ofEnvironment environment = validate settings := by
  rw [ofEnvironment_eq, readAs_of_takes taken.autoInstall, readAs_of_takes taken.timeout,
    filled?_of_takes taken.nodePath, filled?_of_takes taken.extensionDir,
    registryOf_eq_iff.2 taken.registry]
  rfl

theorem ofEnvironment_of_switch {value : String}
    (fills : Fills environment "LARAVEL_LSP_AUTO_INSTALL" value)
    (unread : readSwitch? value = none) :
    ofEnvironment environment = .error (.notBoolean "LARAVEL_LSP_AUTO_INSTALL" value) := by
  rw [ofEnvironment_eq, readAs_of_unread fills unread]
  rfl

theorem ofEnvironment_of_number {value : String} {autoInstall : Bool}
    (taken : Takes environment "LARAVEL_LSP_AUTO_INSTALL" readSwitch? true autoInstall)
    (fills : Fills environment "LARAVEL_LSP_REQUEST_TIMEOUT" value)
    (unread : Number.read? value = none) :
    ofEnvironment environment = .error (.notNumber "LARAVEL_LSP_REQUEST_TIMEOUT" value) := by
  rw [ofEnvironment_eq, readAs_of_takes taken, readAs_of_unread fills unread]
  rfl

/-- Settings can be taken, unless a word cannot be read; the word for the switch is read first. -/
theorem taken_or_unread (environment : List (String × String)) :
    (∃ settings, Taken environment settings) ∨
      (∃ value, Fills environment "LARAVEL_LSP_AUTO_INSTALL" value ∧ readSwitch? value = none) ∨
      ((∃ autoInstall,
          Takes environment "LARAVEL_LSP_AUTO_INSTALL" readSwitch? true autoInstall) ∧
        ∃ value, Fills environment "LARAVEL_LSP_REQUEST_TIMEOUT" value ∧
          Number.read? value = none) := by
  have path (name : String) :
      Takes environment name (some ∘ some) none (filled? environment name) := by
    rw [takes_iff]
    cases filled? environment name <;> rfl
  rcases exists_takes_or environment "LARAVEL_LSP_AUTO_INSTALL" readSwitch? true with
    ⟨autoInstall, switch⟩ | unread
  · rcases exists_takes_or environment "LARAVEL_LSP_REQUEST_TIMEOUT" Number.read? (.ofNat 30) with
      ⟨timeout, number⟩ | unread
    · exact .inl ⟨⟨autoInstall, _, _, _, timeout⟩,
        ⟨switch, path _, path _, registryOf_eq_iff.1 rfl, number⟩⟩
    · exact .inr (.inr ⟨⟨autoInstall, switch⟩, unread⟩)
  · exact .inr (.inl unread)

/-- Settings that are read are taken from the variables and accepted. -/
theorem exists_taken_of_ofEnvironment {made : Settings} (h : ofEnvironment environment = .ok made) :
    ∃ settings, Taken environment settings ∧ validate settings = .ok made := by
  rcases taken_or_unread environment with
    ⟨settings, taken⟩ | ⟨_, fills, unread⟩ | ⟨⟨_, switch⟩, _, fills, unread⟩
  · exact ⟨settings, taken, ofEnvironment_of_taken taken ▸ h⟩
  · exact nomatch (ofEnvironment_of_switch fills unread).symm.trans h
  · exact nomatch (ofEnvironment_of_number switch fills unread).symm.trans h

/-! ## Flaws -/

/-- Taken settings have no word that cannot be read. -/
theorem Takes.not_unread {value : String} (taken : Takes environment name read default setting)
    (fills : Fills environment name value) : read value ≠ none := by
  rw [takes_iff, filled?_eq_some_iff.2 fills] at taken
  exact fun unread => nomatch unread.symm.trans taken

/-- At each place of the order there is at most one flaw. -/
theorem Wrong.unique {flaw other : SettingsFlaw} (wrong : Wrong environment flaw)
    (wrong' : Wrong environment other) (same : flaw.rank = other.rank) : flaw = other := by
  cases wrong with
  | switch fills _ =>
    cases wrong' with
    | switch fills' _ => rw [Option.some.inj (fills.1.symm.trans fills'.1)]
    | number _ _ | timeout _ _ | registry _ _ => cases same
  | number fills _ =>
    cases wrong' with
    | number fills' _ => rw [Option.some.inj (fills.1.symm.trans fills'.1)]
    | switch _ _ | timeout _ _ | registry _ _ => cases same
  | timeout taken _ =>
    cases wrong' with
    | timeout taken' _ => rw [taken.unique taken']
    | switch _ _ | number _ _ | registry _ _ => cases same
  | registry taken _ =>
    cases wrong' with
    | registry taken' _ =>
      rw [← registryOf_eq_iff.2 taken, ← registryOf_eq_iff.2 taken']
    | switch _ _ | number _ _ | timeout _ _ => cases same

/-- A check refuses settings for the time-out or, if the time-out will do, for the registry. -/
theorem validate_eq_error_iff {settings : Settings} {flaw : SettingsFlaw} :
    validate settings = .error flaw ↔
      (settings.timeout.atMostZero = true ∧ flaw = .timeoutNotPositive settings.timeout) ∨
        (settings.timeout.atMostZero = false ∧ ¬ HasScheme settings.registry ∧
          flaw = .registryNotHttp settings.registry) := by
  rw [← isHttp_iff, validate]
  cases settings.timeout.atMostZero <;> cases isHttp settings.registry <;>
    simp [eq_comm (a := flaw)]

/-- If every word can be read, only the checks are left to find something wrong. -/
theorem Taken.wrong_iff {settings : Settings} {flaw : SettingsFlaw}
    (taken : Taken environment settings) :
    Wrong environment flaw ↔
      (settings.timeout.atMostZero = true ∧ flaw = .timeoutNotPositive settings.timeout) ∨
        (¬ HasScheme settings.registry ∧ flaw = .registryNotHttp settings.registry) := by
  constructor
  · intro wrong
    cases wrong with
    | switch fills unread => exact absurd unread (taken.autoInstall.not_unread fills)
    | number fills unread => exact absurd unread (taken.timeout.not_unread fills)
    | timeout taken' spent =>
      cases taken.timeout.unique taken'
      exact .inl ⟨spent, rfl⟩
    | registry taken' unreached =>
      cases (registryOf_eq_iff.2 taken').symm.trans (registryOf_eq_iff.2 taken.registry)
      exact .inr ⟨unreached, rfl⟩
  · rintro (⟨spent, rfl⟩ | ⟨unreached, rfl⟩)
    · exact .timeout taken.timeout spent
    · exact .registry taken.registry unreached

/-- What is reported is wrong, and nothing that is looked for before is. -/
theorem wrong_of_ofEnvironment {flaw : SettingsFlaw}
    (h : ofEnvironment environment = .error flaw) :
    Wrong environment flaw ∧ ∀ other, Wrong environment other → flaw.rank ≤ other.rank := by
  rcases taken_or_unread environment with
    ⟨settings, taken⟩ | ⟨value, fills, unread⟩ | ⟨⟨_, switch⟩, value, fills, unread⟩
  · rw [ofEnvironment_of_taken taken, validate_eq_error_iff] at h
    simp only [taken.wrong_iff]
    rcases h with ⟨spent, rfl⟩ | ⟨inTime, unreached, rfl⟩
    · refine ⟨.inl ⟨spent, rfl⟩, ?_⟩
      rintro _ (⟨_, rfl⟩ | ⟨_, rfl⟩) <;> simp [SettingsFlaw.rank]
    · refine ⟨.inr ⟨unreached, rfl⟩, ?_⟩
      rintro _ (⟨spent, _⟩ | ⟨_, rfl⟩)
      · exact nomatch inTime.symm.trans spent
      · exact le_rfl
  · cases (ofEnvironment_of_switch fills unread).symm.trans h
    exact ⟨.switch fills unread, fun _ _ => Nat.zero_le _⟩
  · cases (ofEnvironment_of_number switch fills unread).symm.trans h
    refine ⟨.number fills unread, fun other wrong => ?_⟩
    cases wrong with
    | switch fills unread => exact absurd unread (switch.not_unread fills)
    | number _ _ | timeout _ _ | registry _ _ => simp [SettingsFlaw.rank]

/-- Settings are not accepted while something is wrong. -/
theorem not_wrong_of_ofEnvironment {made : Settings} {flaw : SettingsFlaw}
    (h : ofEnvironment environment = .ok made) : ¬ Wrong environment flaw := by
  obtain ⟨settings, taken, accepts⟩ := exists_taken_of_ofEnvironment h
  obtain ⟨inTime, reached, -⟩ := validate_eq_ok_iff.1 accepts
  simp [taken.wrong_iff, inTime, reached]

/-- What is reported is the first thing that is wrong. -/
theorem ofEnvironment_eq_error_iff {flaw : SettingsFlaw} :
    ofEnvironment environment = .error flaw ↔
      Wrong environment flaw ∧ ∀ other, Wrong environment other → flaw.rank ≤ other.rank := by
  refine ⟨wrong_of_ofEnvironment, fun ⟨wrong, first⟩ => ?_⟩
  cases ended : ofEnvironment environment with
  | ok made => exact absurd wrong (not_wrong_of_ofEnvironment ended)
  | error other =>
    obtain ⟨wrong', first'⟩ := wrong_of_ofEnvironment ended
    rw [wrong'.unique wrong (le_antisymm (first' _ wrong) (first _ wrong'))]

/-! ## Two environments -/

/-- Settings depend on nothing but what the variables are filled with, and not on the package
manager's registry if the launcher's own one is filled. -/
theorem ofEnvironment_congr
    (same : ∀ name ∈ variableNames, name ≠ "NPM_CONFIG_REGISTRY" →
      filled? environment name = filled? environment' name)
    (manager : filled? environment "LARAVEL_LSP_NPM_REGISTRY" = none →
      filled? environment "NPM_CONFIG_REGISTRY" = filled? environment' "NPM_CONFIG_REGISTRY") :
    ofEnvironment environment = ofEnvironment environment' := by
  simp only [variableNames, List.forall_mem_cons] at same
  obtain ⟨switch, node, extension, own, -, timeout, -⟩ := same
  have registry : registryOf environment Server.defaultRegistry =
      registryOf environment' Server.defaultRegistry := by
    unfold registryOf
    rw [← own (by decide)]
    cases filled : filled? environment "LARAVEL_LSP_NPM_REGISTRY" with
    | none => rw [manager filled]
    | some url => rfl
  simp only [ofEnvironment_eq, readAs, registry, switch (by decide), node (by decide),
    extension (by decide), timeout (by decide)]

theorem filled?_eq_of_fills
    (same : ∀ value, Fills environment name value ↔ Fills environment' name value) :
    filled? environment name = filled? environment' name := by
  apply Option.ext
  simpa only [filled?_eq_some_iff] using same

/-- A registry of the launcher's own is the one that is taken. -/
theorem TakesRegistry.eq_of_fills {registry url : String}
    (taken : TakesRegistry environment registry)
    (fills : Fills environment "LARAVEL_LSP_NPM_REGISTRY" url) : registry = url := by
  rw [← registryOf_eq_iff.2 taken]
  simp [registryOf, filled?_eq_some_iff.2 fills]

/-! ## What is read -/

/-- **Settings from an environment.** Settings that are read have the outcome of a check of the
settings that are taken from the variables, and they can be taken unless a word cannot be read.
What is reported is the first thing that is wrong. The outcome depends on nothing but what the
variables are filled with; and if the launcher's own registry is filled with one that can be
reached, then neither on the package manager's, nor is a registry ever what is wrong. -/
theorem ofEnvironment_reads (environment : List (String × String)) :
    (∀ settings, Taken environment settings → ofEnvironment environment = validate settings) ∧
      ((∃ settings, Taken environment settings) ∨
        ∃ flaw, Wrong environment flaw ∧ flaw.rank ≤ 1) ∧
      (∀ flaw, ofEnvironment environment = .error flaw ↔
        Wrong environment flaw ∧ ∀ other, Wrong environment other → flaw.rank ≤ other.rank) ∧
      (∀ environment', (∀ name ∈ variableNames, ∀ value,
          Fills environment name value ↔ Fills environment' name value) →
        ofEnvironment environment = ofEnvironment environment') ∧
      ∀ url, Fills environment "LARAVEL_LSP_NPM_REGISTRY" url → HasScheme url →
        (∀ environment', (∀ name ∈ variableNames, name ≠ "NPM_CONFIG_REGISTRY" → ∀ value,
            Fills environment name value ↔ Fills environment' name value) →
          ofEnvironment environment = ofEnvironment environment') ∧
        ∀ registry, ofEnvironment environment ≠ .error (.registryNotHttp registry) := by
  refine ⟨fun _ => ofEnvironment_of_taken, ?_, fun _ => ofEnvironment_eq_error_iff, ?_, ?_⟩
  · rcases taken_or_unread environment with taken | ⟨_, fills, unread⟩ | ⟨_, _, fills, unread⟩
    · exact .inl taken
    · exact .inr ⟨_, .switch fills unread, by simp [SettingsFlaw.rank]⟩
    · exact .inr ⟨_, .number fills unread, by simp [SettingsFlaw.rank]⟩
  · intro environment' same
    exact ofEnvironment_congr (fun name listed _ => filled?_eq_of_fills (same name listed))
      fun _ => filled?_eq_of_fills (same _ (by decide))
  · intro url fills reached
    refine ⟨fun environment' same => ?_, fun registry ended => ?_⟩
    · refine ofEnvironment_congr
        (fun name listed other => filled?_eq_of_fills (same name listed other)) fun empty => ?_
      exact absurd (filled?_eq_some_iff.2 fills) (by simp [empty])
    · cases (wrong_of_ofEnvironment ended).1 with
      | registry taken unreached => exact unreached (taken.eq_of_fills fills ▸ reached)

/-- Of three words that say nothing the one for the switch is reported. -/
example :
    ofEnvironment [("LARAVEL_LSP_REQUEST_TIMEOUT", "soon"), ("NPM_CONFIG_REGISTRY", "here"),
      ("LARAVEL_LSP_AUTO_INSTALL", "maybe")] =
        .error (.notBoolean "LARAVEL_LSP_AUTO_INSTALL" "maybe") := by
  decide +kernel

end Settings

end ServerLaunch
