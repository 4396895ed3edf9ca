/-!
# The language server

The one server that can be launched: its identity, the package that provides it, and
where the files of the package and of the editor extension lie.
-/
namespace ServerLaunch.Server

/-- The version of the extension. -/
def extensionVersion : String := "0.1.0"

/-- The identity of the server, which is also the name of its program. -/
def id : String := "intelephense"

/-- The package that provides the server. -/
def package : String := "intelephense"

/-- The argument that makes the server talk over its standard streams. -/
def streamFlag : String := "--stdio"

/-- The bridge script, seen from the directory of the extension. -/
def bridgeScript : String := "lsp-proxy/proxy.js"

/-- The server's entry script, seen from the root of a workspace. -/
def entryScript : String := "node_modules/intelephense/lib/intelephense.js"

/-- The server's program among those that a workspace provides, seen from its root. -/
def localProgram : String := "node_modules/.bin/intelephense"

/-- The registry that is asked unless another one is set. -/
def defaultRegistry : String := "https://registry.npmjs.org"

end ServerLaunch.Server
