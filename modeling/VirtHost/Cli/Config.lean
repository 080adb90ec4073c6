import VirtHost.Cli.Command
import VirtHost.Data.Connection
import VirtHost.Host.Program
import VirtHost.Yaml.Reader

/-! # Configuration

* `Config`: how the host is reached, what is logged, and the settings. Everything has a default.
* `ConfigError`: why a file holds no configuration.
* `Config.load`: the configuration in a file.
* `Config.withGlobals`: what the command line says goes before what the file says.
* `Config.resolve`: the configuration of a command line.
-/

namespace VirtHost.Cli
open Data (Shape Field Value textField)
set_option autoImplicit false

structure Config where
  connection : Connection := .direct
  logLevel : String := "info"
  logJson : Bool := false
  settings : Settings := {}
  deriving DecidableEq

/-- Why a file holds no configuration. -/
inductive ConfigError
  | notFound (path : String)
  | unreadable (path : String)
  | malformed (path : String)
  /-- The settings cannot be worked with. -/
  | invalid (path : String) (cause : Error)
  deriving DecidableEq

namespace ConfigError

def message : ConfigError → String
  | notFound path => "Config file not found: " ++ path
  | unreadable path => "Failed to read config file: " ++ path
  | malformed path => "Failed to parse config file: " ++ path
  | invalid path _ => "Invalid hypervisor section in " ++ path

/-- The error behind an error. -/
def cause? : ConfigError → Option Error
  | invalid _ cause => some cause
  | _ => none

/-- The error of a file that could not be read. A path that leads nowhere is as good as no file. -/
def ofFile (path : String) : FileError → ConfigError
  | .missing => notFound path
  | .notDirectory => notFound path
  | .nameTooLong => notFound path
  | .nulInPath => notFound path
  | _ => unreadable path

end ConfigError

namespace Config

/-! ## Files -/

def shape : Shape Config where
  base := {}
  fields :=
    [.of "connection" Data.connection? fun v c => { c with connection := v },
     textField "log_level" fun v c => { c with logLevel := v },
     .of "log_json" Value.flag? fun v c => { c with logJson := v },
     .of "hypervisor" Data.settingsShape.read? fun v c => { c with settings := v }]

/-- The configuration in the text of the file at `path`. Its settings have to be valid. -/
def parse (path text : String) : Except ConfigError Config :=
  match (Yaml.read? text).bind shape.read? with
  | none => .error (.malformed path)
  | some config => (config.settings.validate.map fun _ => config).mapError (.invalid path)

def load (path : String) : Program (Except ConfigError Config) := do
  let reply ← Host.readLocal path
  pure ((reply.mapError (ConfigError.ofFile path)).bind (parse path))

/-! ## Command lines -/

/-- The connection to another host. The user and the port stay as they are. -/
def toHost (host : String) : Connection → Connection
  | .direct => .ssh { host }
  | .ssh remote => .ssh { remote with host }

/-- The connection as another user or through another port; a direct one has neither. -/
def throughPort (user : Option String) (port : Option UInt16) : Connection → Connection
  | .direct => .direct
  | .ssh remote =>
    .ssh { remote with user := user <|> remote.user, port := port.getD remote.port }

/-- What the command line says goes before what the configuration says. -/
def withGlobals (c : Config) (g : Globals) : Config where
  connection :=
    throughPort g.user g.port (g.host.elim c.connection fun host => toHost host c.connection)
  logLevel := g.logLevel.getD c.logLevel
  logJson := c.logJson || g.logJson
  settings := c.settings

/-- The configuration of a command line. The file that is used when none is named need not be there. -/
def resolve (standardPath : String) (g : Globals) : Program (Except ConfigError Config) := do
  let outcome ← load (g.config.getD standardPath)
  let config : Except ConfigError Config := match g.config, outcome with
    | none, .error (.notFound _) => .ok {}
    | _, outcome => outcome
  pure (config.map (·.withGlobals g))

end Config
end VirtHost.Cli
