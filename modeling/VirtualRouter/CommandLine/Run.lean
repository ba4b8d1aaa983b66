import VirtualRouter.CommandLine.Arguments
import VirtualRouter.CommandLine.LogFilter
import VirtualRouter.Config.File

/-!
A run of the daemon from its command line: what it shows and how it ends, if nothing happens to it but the interrupt
that asks it to stop. Settings that cannot be read or used end it before it starts; the switch given on the command
line replaces the one in the settings before they are checked.
-/

namespace VirtualRouter

/-- How a run ended before the daemon started. -/
inductive StartFailure where
  /-- The settings cannot be read. -/
  | loading (path : String) (fault : Fault)
  /-- The settings cannot be used. -/
  | invalid (fault : Fault)
  deriving DecidableEq, Repr

/-- What was being done when a run failed. -/
def StartFailure.context : StartFailure → String
  | .loading path _ => "loading " ++ path
  | .invalid _ => "invalid configuration"

/-- Why a run failed. -/
def StartFailure.fault : StartFailure → Fault
  | .loading _ fault => fault
  | .invalid fault => fault

/-- The report of a failed run. -/
def StartFailure.report (f : StartFailure) : String :=
  f.context ++ "\n\nCaused by:\n    " ++ f.fault.message

/-- A run of the daemon, as seen from outside. -/
inductive DaemonRun where
  /-- It showed how to use it. -/
  | help
  | version
  /-- The arguments made no sense. -/
  | usageError
  | failed (failure : StartFailure)
  /-- It ran until it was interrupted; the lines it logged when it started and at its end, if they were shown. -/
  | interrupted (started : Option String) (stopped : Option String)
  deriving DecidableEq, Repr

namespace DaemonRun

/-- The version of the daemon. -/
def versionText : String := "vrnd 0.1.0"

/-- What the arguments mean, in short. -/
def usageText : String :=
  "Virtual router forwarding controller\n\n" ++
  "Usage: vrnd [OPTIONS]\n\n" ++
  "Options:\n" ++
  "  -c, --config <CONFIG>            Configuration file\n" ++
  "  -l, --log-level <LOG_LEVEL>      Log filter (trace, debug, info, warn, error)\n" ++
  "      --datapath-id <DATAPATH_ID>  Override the managed datapath id\n" ++
  "  -h, --help                       Print help\n" ++
  "  -V, --version                    Print version"

/-! ### Lines in the log -/

/-- The line at the start. -/
def startLine : LogLine where
  target := "vrnd"
  fields := ["message", "datapath_id", "local_address", "idle_expire_secs", "wildcard_flows", "static_neighbors"]
  level := .info

/-- The line at the end. -/
def endLine : LogLine where
  target := "vrnd"
  fields := ["message"]
  level := .info

/-- A number in decimal. -/
def numberText (n : Nat) : String := String.ofList (Numeral.decimal n)

/-- What the line at the start says of the settings. -/
def startText (c : Config) : String :=
  "datapath_id=" ++ numberText c.node.datapathId.toNat ++
  " local_address=" ++ c.node.localAddress.text ++
  " idle_expire_secs=" ++ numberText c.flows.idleExpire.toNat ++
  " wildcard_flows=" ++ (if c.flows.wildcards then "true" else "false") ++
  " static_neighbors=" ++ numberText c.resolution.neighbors.length

/-- What the line at the end says. -/
def endText : String := "vrnd exiting normally"

/-! ### Runs -/

/-- The settings for a run. -/
def settings (files : String → FileState) (a : Arguments) : Except StartFailure Config :=
  match Config.load (files a.config) with
  | .error fault => .error (.loading a.config fault)
  | .ok config =>
    let config := { config with node.datapathId := a.datapathId.getD config.node.datapathId }
    match config.validate with
    | .error fault => .error (.invalid fault)
    | .ok _ => .ok config

/-- The run for given arguments. -/
def ofArguments (files : String → FileState) (texts : List String) : DaemonRun :=
  match Invocation.ofArguments texts with
  | .help => .help
  | .version => .version
  | .refused => .usageError
  | .run a =>
    match settings files a with
    | .error failure => .failed failure
    | .ok config =>
      let filter := LogFilter.ofText a.logFilter
      .interrupted (if filter.shows startLine then some (startText config) else none)
        (if filter.shows endLine then some endText else none)

/-- The code that the daemon exits with. -/
def exitCode : DaemonRun → Nat
  | usageError => 2
  | failed _ => 1
  | help => 0
  | version => 0
  | interrupted _ _ => 0

end DaemonRun

end VirtualRouter
