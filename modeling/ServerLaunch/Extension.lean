import ServerLaunch.Descriptor
import ServerLaunch.Node
import ServerLaunch.Package.Npm
import ServerLaunch.Provision
import ServerLaunch.Slash

/-!
# The extension

What a host calls: the command that starts a language server for a workspace. The server
is located, or else provisioned if that is wanted; then it is started directly or
through the bridge. What only the bridge needs is looked for only then, the directory of
the extension before the Node program.

## Main definitions

* `Extension`: settings, a package source and a reporter.
* `Extension.ofEnvironment`: the extension as it is set up by default.
* `Extension.command`: the launch descriptor of a server.
-/
namespace ServerLaunch

variable {σ : Type}

/-- An extension as a host holds it. -/
structure Extension (σ : Type) where
  settings : Settings
  source : PackageSource σ
  reporter? : Option (Reporter σ)

namespace Extension

/-- The package source that goes with settings: their registry and time-out, and npm as it
is found. -/
def defaultSource (settings : Settings) : PackageSource σ :=
  Npm.source (.ofText settings.registry settings.timeout) {}

/-- An extension with settings; a source that is not given is the one that goes with them. -/
def ofSettings (settings : Settings) (source? : Option (PackageSource σ))
    (reporter? : Option (Reporter σ)) : Extension σ :=
  { settings
    source := source?.getD (defaultSource settings)
    reporter? }

/-- An extension with the settings of environment variables. -/
def ofEnvironment (environment : List (String × String)) (source? : Option (PackageSource σ))
    (reporter? : Option (Reporter σ)) : Except SettingsFlaw (Extension σ) :=
  (Settings.ofEnvironment environment).map fun settings => ofSettings settings source? reporter?

/-- What is said when there is no server and none may be installed. -/
def notFoundReport (server : String) : String :=
  server ++ " not found. Please install it via npm: npm install -g " ++ server

/-- Look at the machine of a session. -/
def look {α : Type} (f : Machine → Except Failure α) : Action (Session σ) α :=
  .observe fun session => f session.world.toMachine

/-- The server to start: one that is located, or else the provisioned one. -/
def serverFor (e : Extension σ) (server : String) (workspace : Workspace) :
    Action (Session σ) Located := do
  let located? ← look fun m =>
    (workspace.locate m server !e.settings.autoInstall).mapError .fault
  match located? with
  | some located => pure located
  | none =>
    if e.settings.autoInstall then
      let script ← ensureInstalled server workspace e.source e.reporter?
      pure ⟨script, false⟩
    else .fail (.launch (.notFound (notFoundReport server)))

/-- The descriptor that runs a script through the bridge. -/
def bridge (e : Extension σ) (workspace : Workspace) (script : Path) :
    Action (Session σ) Descriptor := do
  let directory ← look fun m => m.extensionDir e.settings.extensionDir?
  let node ← look fun m => m.node workspace e.settings.nodePath?
  pure (.bridged node directory script)

/-- The descriptor that starts a language server for a workspace. Only one server is known. -/
def command (e : Extension σ) (server : String) (workspace : Workspace) :
    Action (Session σ) Descriptor := do
  if server ≠ Server.id then .fail (.launch (.unknownServer server))
  else
    let located ← e.serverFor server workspace
    if located.direct then pure (.direct located.path) else e.bridge workspace located.path

end Extension

end ServerLaunch
