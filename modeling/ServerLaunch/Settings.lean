import ServerLaunch.Action
import ServerLaunch.Number.Layout
import ServerLaunch.Number.Numeral
import ServerLaunch.Server
import ServerLaunch.Text.Lowercase

/-!
# Settings

What a user can choose, and reading it from environment variables. Settings are
checked before they are used: the time-out has to be positive and the registry has to
be reached over HTTP. A registry loses the slashes at its end, so that a path can be
put after it.

## Main definitions

* `Settings`: the choices, with their defaults.
* `SettingsFlaw`: what can be wrong with them.
* `Settings.validate`: the settings as they are used.
* `Settings.recheck`: the same check of settings that are held.
* `Settings.ofEnvironment`: settings from variables.
-/
namespace ServerLaunch

/-- The choices of a user. -/
structure Settings where
  autoInstall : Bool := true
  nodePath? : Option String := none
  extensionDir? : Option String := none
  registry : String := Server.defaultRegistry
  timeout : Number.Binary64 := .ofNat 30
deriving DecidableEq, Repr

/-- What is wrong with settings, or with a variable that should hold one. -/
inductive SettingsFlaw where
  | timeoutNotPositive (timeout : Number.Binary64)
  | registryNotHttp (registry : String)
  | notBoolean (name value : String)
  | notNumber (name value : String)
deriving DecidableEq, Repr

/-- Time-outs are written without an exponent from a ten-thousandth up to sixteen digits. -/
def timeoutLayout : Number.Layout := ⟨-3, 16, 2, "inf", "nan"⟩

namespace SettingsFlaw

/-- The report of a flaw. -/
def report : SettingsFlaw → String
  | timeoutNotPositive timeout =>
    "request_timeout must be positive, got " ++ timeoutLayout.write timeout
  | registryNotHttp registry =>
    "registry_url must be an http(s) URL, got " ++ Text.quote registry
  | notBoolean name value => name ++ " must be a boolean, got " ++ Text.quote value
  | notNumber name value => name ++ " must be a number, got " ++ Text.quote value

/-- The launch error for a flaw. -/
def toLaunchError (flaw : SettingsFlaw) : LaunchError := .invalidSettings flaw.report

end SettingsFlaw

namespace Settings

/-! ## Checking -/

/-- Whether a registry is reached over HTTP, with or without encryption. -/
def isHttp (registry : String) : Bool :=
  "http://".toList.isPrefixOf registry.toList || "https://".toList.isPrefixOf registry.toList

/-- The registry without the slashes at its end. -/
def plainRegistry (registry : String) : String := Text.dropTrailing '/' registry

/-- The settings as they are used, or the first flaw in them. -/
def validate (settings : Settings) : Except SettingsFlaw Settings :=
  if settings.timeout.atMostZero then .error (.timeoutNotPositive settings.timeout)
  else if !isHttp settings.registry then .error (.registryNotHttp settings.registry)
  else .ok { settings with registry := plainRegistry settings.registry }

/-- Check settings where they are held, after they were assigned. The registry is rewritten
there once nothing is found wrong. -/
def recheck : Action Settings Unit := do
  let settings ← .observe .ok
  if settings.timeout.atMostZero then
    .fail (.launch (SettingsFlaw.timeoutNotPositive settings.timeout).toLaunchError)
  if !isHttp settings.registry then
    .fail (.launch (SettingsFlaw.registryNotHttp settings.registry).toLaunchError)
  .update fun settings => { settings with registry := plainRegistry settings.registry }

/-! ## Showing -/

/-- A choice that may be left open. -/
def quoteChoice : Option String → String
  | none => "None"
  | some text => Text.quote text

/-- The settings in one line. -/
def describe (settings : Settings) : String :=
  "ExtensionConfig(auto_install=" ++ (if settings.autoInstall then "True" else "False")
    ++ ", node_path=" ++ quoteChoice settings.nodePath?
    ++ ", extension_dir=" ++ quoteChoice settings.extensionDir?
    ++ ", registry_url=" ++ Text.quote settings.registry
    ++ ", request_timeout=" ++ timeoutLayout.write settings.timeout ++ ")"

/-! ## Environment variables -/

/-- The value of a variable that is set and not empty. -/
def filled? (environment : List (String × String)) (name : String) : Option String :=
  (environment.lookup name).filter (· != "")

/-- The words for yes. -/
def yesWords : List String := ["1", "true", "yes", "on"]

/-- The words for no. -/
def noWords : List String := ["0", "false", "no", "off"]

/-- The truth value that a word stands for, in any case and with any space around. -/
def readSwitch? (value : String) : Option Bool :=
  let word := Text.lowercase (Text.trim value)
  if word ∈ yesWords then some true else if word ∈ noWords then some false else none

/-- The truth value of a variable, or the default if it is not filled. -/
def switchOf (environment : List (String × String)) (name : String) (default : Bool) :
    Except SettingsFlaw Bool :=
  match filled? environment name with
  | none => .ok default
  | some value => match readSwitch? value with
    | some answer => .ok answer
    | none => .error (.notBoolean name value)

/-- The number of a variable, or the default if it is not filled. -/
def numberOf (environment : List (String × String)) (name : String)
    (default : Number.Binary64) : Except SettingsFlaw Number.Binary64 :=
  match filled? environment name with
  | none => .ok default
  | some value => match Number.read? value with
    | some number => .ok number
    | none => .error (.notNumber name value)

/-- The registry of the variables: the launcher's own one comes before the package
manager's. -/
def registryOf (environment : List (String × String)) (default : String) : String :=
  ((filled? environment "LARAVEL_LSP_NPM_REGISTRY").or
    (filled? environment "NPM_CONFIG_REGISTRY")).getD default

/-- Settings from environment variables, checked. The variables are read before the
settings are checked, so a word that cannot be read is the flaw that is reported. -/
def ofEnvironment (environment : List (String × String)) : Except SettingsFlaw Settings := do
  let default : Settings := {}
  let autoInstall ← switchOf environment "LARAVEL_LSP_AUTO_INSTALL" default.autoInstall
  let timeout ← numberOf environment "LARAVEL_LSP_REQUEST_TIMEOUT" default.timeout
  validate
    { autoInstall
      nodePath? := filled? environment "LARAVEL_LSP_NODE_PATH"
      extensionDir? := filled? environment "LARAVEL_LSP_EXTENSION_DIR"
      registry := registryOf environment default.registry
      timeout }

end Settings

end ServerLaunch
