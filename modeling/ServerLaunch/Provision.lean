import ServerLaunch.Package.Source
import ServerLaunch.Workspace

/-!
# Provisioning

Keeping the server's package in a workspace at its latest version. The registry is asked
once in a session; after the first success the copy in the workspace is trusted for as
long as it is there. When the registry or the installation fails, a copy that is there
is better than none and is used as it is.

The host is told of the stages. What its reporter does about them, failing included, has
no influence.

## Main definitions

* `Session`: a world, and whether the server was confirmed in it.
* `Reporter`: how a host is told.
* `provision`: one check for the latest version.
* `ensureInstalled`: the server's script, checked at most once in a session.
-/
namespace ServerLaunch

variable {σ : Type}

/-- A world with what is known about the server since the session began. -/
structure Session (σ : Type) where
  world : World σ
  /-- Whether the server's presence was confirmed. -/
  confirmed : Bool

/-- An action on the world of a session. -/
def Session.onWorld {α : Type} (action : Action (World σ) α) : Action (Session σ) α :=
  action.within Session.world fun session world => { session with world }

/-- How a host is told of the stages for a server. -/
abbrev Reporter (σ : Type) := String → Status → Action (World σ) Unit

namespace Reporter

/-- A reporter that an observer sees. -/
def recording : Reporter σ := fun server status => .emit (.status server status)

/-- A reporter that an observer sees and that always fails. -/
def failing (message : String) : Reporter σ := fun server status => do
  .emit (.status server status)
  .fail (.fault (.runtime message))

end Reporter

/-- Tell the host of a stage. Its reporter's outcome is ignored. -/
def report (reporter? : Option (Reporter σ)) (server : String) (status : Status) :
    Action (World σ) Unit :=
  match reporter? with
  | none => pure ()
  | some reporter => do
    let _ ← (reporter server status).attempt

/-- Whether the failure of a query is one that an older copy makes up for. -/
def Failure.isVersionQuery : Failure → Bool
  | launch error => error.kind == .versionQuery
  | fault _ => false

/-- Whether the failure of an installation is one that an older copy makes up for. -/
def Failure.isInstall : Failure → Bool
  | launch error => error.kind == .install
  | fault _ => false

/-- Go on with the copy that is there, or fail if there is none. -/
def fallBack (script : Path) (failure : Failure) : Action (World σ) Unit := do
  if !(← World.isFile script) then .fail failure

/-- Whether the copy that is there has the latest version. -/
def upToDate (source : PackageSource σ) (workspace : Workspace) (latest : Version) :
    Action (World σ) Bool := do
  if ← World.isFile workspace.entryScript then
    return Version.agrees (← source.installed? Server.package workspace.root) latest
  return false

/-- Install a version, and see that it brought the script. -/
def installVersion (source : PackageSource σ) (workspace : Workspace) (version : Version) :
    Action (World σ) Unit := do
  let script := workspace.entryScript
  match ← (source.install Server.package version workspace.root).attempt with
  | .ok () =>
    if !(← World.isFile script) then
      .fail (.launch (.installedPathMissing Server.package Server.entryScript))
  | .error failure => if failure.isInstall then fallBack script failure else .fail failure

/-- Check for the latest version, and install it unless it is there. -/
def provision (server : String) (workspace : Workspace) (source : PackageSource σ)
    (reporter? : Option (Reporter σ)) : Action (World σ) Unit := do
  report reporter? server .checkingForUpdate
  match ← (source.latest Server.package).attempt with
  | .error failure =>
    if failure.isVersionQuery then fallBack workspace.entryScript failure else .fail failure
  | .ok latest =>
    if !(← upToDate source workspace latest) then
      report reporter? server .downloading
      installVersion source workspace latest

/-- Tell the host that provisioning failed, unless it was a fault from outside. -/
def reportFailure (reporter? : Option (Reporter σ)) (server : String) (failure : Failure) :
    Action (World σ) Unit :=
  match failure with
  | .launch _ => report reporter? server .failed
  | .fault _ => pure ()

/-- Whether the script was confirmed and is still there. -/
def stillConfirmed (script : Path) : Action (Session σ) Bool := do
  if ← .observe fun session => .ok session.confirmed then Session.onWorld (World.isFile script)
  else return false

/-- The script of the server in a workspace, provisioned unless that was done in this session
and the script is still there. -/
def ensureInstalled (server : String) (workspace : Workspace) (source : PackageSource σ)
    (reporter? : Option (Reporter σ)) : Action (Session σ) Path := do
  if !(← stillConfirmed workspace.entryScript) then
    match ← (Session.onWorld (provision server workspace source reporter?)).attempt with
    | .ok () => .update fun session => { session with confirmed := true }
    | .error failure =>
      Session.onWorld (reportFailure reporter? server failure)
      .fail failure
  return workspace.entryScript

end ServerLaunch
