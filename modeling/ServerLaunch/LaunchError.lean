import ServerLaunch.Fault
import ServerLaunch.Version

/-!
# Launch errors

Why no launch command can be given. Every error belongs to one cause of a closed set,
so a caller can decide by the cause and show the detail. Errors that stand for a fault
outside the launcher keep that fault.

## Main definitions

* `ErrorKind`: the causes.
* `LaunchError`: an error with what it is about.
* `LaunchError.detail`: the text shown to a person.
* `LaunchError.describe`: the text shown to a developer.
-/
namespace ServerLaunch

/-- The causes for which a launch fails. -/
inductive ErrorKind where
  | unknownServer
  | notFound
  | versionQuery
  | install
  | installedPathMissing
  | selfLocation
  | unsupportedSubCommand
  | subCommandNotImplemented
  | invalidSettings
deriving DecidableEq, Repr

namespace ErrorKind

/-- The causes in the order in which they are listed. -/
def all : List ErrorKind :=
  [unknownServer, notFound, versionQuery, install, installedPathMissing, selfLocation,
    unsupportedSubCommand, subCommandNotImplemented, invalidSettings]

/-- No cause is missing from the list. -/
theorem mem_all (kind : ErrorKind) : kind ∈ all := by cases kind <;> decide

/-- The name under which a cause is listed. -/
def name : ErrorKind → String
  | unknownServer => "UNKNOWN_SERVER_IDENTITY"
  | notFound => "NOT_FOUND"
  | versionQuery => "VERSION_QUERY_FAILED"
  | install => "INSTALL_FAILED"
  | installedPathMissing => "INSTALLED_PATH_MISSING"
  | selfLocation => "SELF_LOCATION_UNAVAILABLE"
  | unsupportedSubCommand => "UNSUPPORTED_SUB_COMMAND"
  | subCommandNotImplemented => "SUB_COMMAND_NOT_IMPLEMENTED"
  | invalidSettings => "CONFIG_INVALID"

/-- The text by which a cause is sent to a caller. -/
def value : ErrorKind → String
  | unknownServer => "unknown_server_identity"
  | notFound => "not_found"
  | versionQuery => "version_query_failed"
  | install => "install_failed"
  | installedPathMissing => "installed_path_missing"
  | selfLocation => "self_location_unavailable"
  | unsupportedSubCommand => "unsupported_sub_command"
  | subCommandNotImplemented => "sub_command_not_implemented"
  | invalidSettings => "config_invalid"

/-- The type name of the errors of a cause. -/
def typeName : ErrorKind → String
  | unknownServer => "UnknownServerIdentityError"
  | notFound => "ServerNotFoundError"
  | versionQuery => "VersionQueryError"
  | install => "InstallError"
  | installedPathMissing => "InstalledPathMissingError"
  | selfLocation => "SelfLocationError"
  | unsupportedSubCommand => "UnsupportedSubCommandError"
  | subCommandNotImplemented => "SubCommandNotImplementedError"
  | invalidSettings => "ConfigError"

end ErrorKind

/-- A launch error, with what it is about. -/
inductive LaunchError where
  | unknownServer (server : String)
  | notFound (report : String)
  | versionQuery (package report : String) (cause? : Option Fault)
  | install (package : String) (version : Version) (report : String) (cause? : Option Fault)
  | installedPathMissing (package path : String)
  | selfLocation (report : String) (cause? : Option Fault)
  | unsupportedSubCommand (command : String)
  | subCommandNotImplemented (command report : String)
  | invalidSettings (report : String)
deriving DecidableEq, Repr

namespace LaunchError

/-- The cause that an error belongs to. -/
def kind : LaunchError → ErrorKind
  | unknownServer _ => .unknownServer
  | notFound _ => .notFound
  | versionQuery _ _ _ => .versionQuery
  | install _ _ _ _ => .install
  | installedPathMissing _ _ => .installedPathMissing
  | selfLocation _ _ => .selfLocation
  | unsupportedSubCommand _ => .unsupportedSubCommand
  | subCommandNotImplemented _ _ => .subCommandNotImplemented
  | invalidSettings _ => .invalidSettings

/-- The text of an error. -/
def detail : LaunchError → String
  | unknownServer server => "unknown language server: " ++ server
  | notFound report => report
  | versionQuery package report _ =>
    "failed to fetch latest version of '" ++ package ++ "': " ++ report
  | install package version report _ =>
    "failed to install '" ++ package ++ "@" ++ version.text ++ "': " ++ report
  | installedPathMissing package path =>
    "installed package '" ++ package ++ "' did not contain expected path '" ++ path ++ "'"
  | selfLocation report _ => report
  | unsupportedSubCommand command => "Unsupported slash command: " ++ command
  | subCommandNotImplemented _ report => report
  | invalidSettings report => report

/-- The fault that an error stands for. -/
def cause? : LaunchError → Option Fault
  | versionQuery _ _ cause? => cause?
  | install _ _ _ cause? => cause?
  | selfLocation _ cause? => cause?
  | _ => none

/-- The type, cause and detail of an error in one line. -/
def describe (e : LaunchError) : String :=
  e.kind.typeName ++ "(kind=<ErrorKind." ++ e.kind.name ++ ": " ++ Text.quote e.kind.value
    ++ ">, detail=" ++ Text.quote e.detail ++ ")"

end LaunchError

/-- Why an action ends early: a launch error, or a fault that none covers. -/
inductive Failure where
  | launch (error : LaunchError)
  | fault (fault : Fault)
deriving DecidableEq, Repr

end ServerLaunch
