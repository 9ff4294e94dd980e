import ContractClient.Config.File
import ContractClient.Service.Server

namespace ContractClient

/-! The command line: what is asked of the program, and how a server is made
ready for it. -/

namespace CommandLine

inductive ValueOption where
  | config
  | network
  | url
deriving DecidableEq, Repr

inductive Flag where
  | allowWrites
  | generateConfig
  | configPath
deriving DecidableEq, Repr

structure Options where
  config : Option String
  network : Option String
  url : Option String
  allowWrites : Bool
  generateConfig : Bool
  configPath : Bool
deriving DecidableEq, Repr

def Options.none : Options := ⟨.none, .none, .none, false, false, false⟩

inductive UsageError where
  | unexpected (argument : String)
  | missingValue (option : ValueOption)
  | repeated (argument : String)
deriving DecidableEq, Repr

def ValueOption.text : ValueOption → String
  | .config => "--config"
  | .network => "--network"
  | .url => "--rpc-url"

def Flag.text : Flag → String
  | .allowWrites => "--allow-writes"
  | .generateConfig => "--generate-config"
  | .configPath => "--config-path"

def UsageError.message : UsageError → String
  | .unexpected argument => "unexpected argument '" ++ argument ++ "'"
  | .missingValue option => "'" ++ option.text ++ "' has no value"
  | .repeated argument => "'" ++ argument ++ "' is given more than once"

/-- What arguments lead to. Reading stops where help or the version is asked for. -/
inductive Invocation where
  | run (options : Options)
  | version
  | help
  | refused (error : UsageError)
deriving DecidableEq, Repr

/-! ## Reading arguments -/

namespace Options

/-- Set an option that has a value; it may be set once. -/
def setValue (options : Options) (option : ValueOption) (value : String) :
    Except UsageError Options :=
  let repeated : Except UsageError Options := .error (.repeated option.text)
  match option with
  | .config => if options.config.isSome then repeated else .ok { options with config := value }
  | .network => if options.network.isSome then repeated else .ok { options with network := value }
  | .url => if options.url.isSome then repeated else .ok { options with url := value }

def setFlag (options : Options) (flag : Flag) : Except UsageError Options :=
  let repeated : Except UsageError Options := .error (.repeated flag.text)
  match flag with
  | .allowWrites =>
      if options.allowWrites then repeated else .ok { options with allowWrites := true }
  | .generateConfig =>
      if options.generateConfig then repeated else .ok { options with generateConfig := true }
  | .configPath =>
      if options.configPath then repeated else .ok { options with configPath := true }

end Options

inductive Argument where
  | value (option : ValueOption) (attached : Option String)
  | flag (flag : Flag)
  | version
  | help
  /-- Everything behind it is no option. -/
  | separator
  | unexpected

/-- An argument of one dash and letters; a value may be attached to the letter,
with or without an equals sign. -/
def readShort (letter : Char) (attached : List Char) : Argument :=
  let value :=
    match attached with
    | [] => none
    | '=' :: text => some (String.ofList text)
    | text => some (String.ofList text)
  match letter with
  | 'c' => .value .config value
  | 'n' => .value .network value
  | 'r' => .value .url value
  | 'V' => .version
  | 'h' => .help
  | _ => .unexpected

/-- An argument of two dashes and a name; a value may be attached behind an equals
sign. -/
def readLong (text : List Char) : Argument :=
  let name := String.ofList (text.takeWhile fun character => character ≠ '=')
  let attached :=
    match text.dropWhile fun character => character ≠ '=' with
    | _ :: value => some (String.ofList value)
    | [] => none
  match name, attached with
  | "config", value => .value .config value
  | "network", value => .value .network value
  | "rpc-url", value => .value .url value
  | "allow-writes", none => .flag .allowWrites
  | "generate-config", none => .flag .generateConfig
  | "config-path", none => .flag .configPath
  | "version", none => .version
  | "help", none => .help
  | _, _ => .unexpected

def classify (argument : String) : Argument :=
  match argument.toList with
  | ['-', '-'] => .separator
  | '-' :: '-' :: text => readLong text
  | '-' :: letter :: attached => readShort letter attached
  | _ => .unexpected

/-- Read arguments from the left; `pending` is the option whose value comes next. -/
def readFrom (options : Options) : (pending : Option ValueOption) → List String → Invocation
  | none, [] => .run options
  | some option, [] => .refused (.missingValue option)
  | some option, argument :: rest =>
      match argument.toList with
      | '-' :: _ :: _ => .refused (.missingValue option)
      | _ =>
          match options.setValue option argument with
          | .ok changed => readFrom changed none rest
          | .error reason => .refused reason
  | none, argument :: rest =>
      match classify argument with
      | .version => .version
      | .help => .help
      | .unexpected => .refused (.unexpected argument)
      | .separator =>
          match rest with
          | [] => .run options
          | next :: _ => .refused (.unexpected next)
      | .flag flag =>
          match options.setFlag flag with
          | .ok changed => readFrom changed none rest
          | .error reason => .refused reason
      | .value option (some attached) =>
          match options.setValue option attached with
          | .ok changed => readFrom changed none rest
          | .error reason => .refused reason
      | .value option none => readFrom options (some option) rest

def read (arguments : List String) : Invocation :=
  readFrom .none none arguments

/-! ## Starting -/

structure Environment where
  configDirectory : Option String
  cacheDirectory : String
  /-- A key for the node provider of the well-known networks. -/
  nodeKey : Option String
  explorerKey : Option String

namespace Environment

def defaultConfigPath (environment : Environment) : Option String :=
  environment.configDirectory.map (· ++ "/contract-rpc/config.toml")

def interfaceStore (environment : Environment) : InterfaceStore :=
  .opened (environment.cacheDirectory ++ "/contract-rpc/abi-cache") environment.explorerKey

end Environment

/-- The configuration that is served: the default network may be another than the
one in the file, and at another URL, and writing may be allowed. -/
def chooseConfig (options : Options) (config : Config) : Except ConfigError Config :=
  match config.select (options.network.getD config.defaultNetwork) options.url with
  | (.error reason, _) => .error reason
  | (.ok _, selected) =>
      if options.allowWrites then
        .ok { selected with security.allowWrites := true }
      else .ok selected

def prepare (environment : Environment) (options : Options) :
    Dialogue (Except ToolError Server) :=
  (Config.loadOrDefault (options.config.or environment.defaultConfigPath)
    environment.nodeKey).map fun config =>
      match chooseConfig options config with
      | .error reason => .error (.config reason)
      | .ok chosen => Server.ofConfig chosen environment.interfaceStore

inductive Action where
  | print (text : String)
  /-- End with a status that says that something failed. -/
  | fail (status : UInt8) (reason : String)
  /-- Check the default network, then serve. -/
  | serve (server : Server)

def versionText : String := "contract-rpc 0.1.0\n"

def helpText : String :=
  String.join
    (["Typed Ethereum contract calls, transactions and event filters over JSON-RPC, served as " ++
        "MCP tools",
      "",
      "Usage: contract-rpc [OPTIONS]",
      "",
      "Options:",
      "  -c, --config <FILE>      Path to configuration file",
      "  -n, --network <NETWORK>  Default network to use (ethereum, sepolia, polygon, arbitrum, " ++
        "local)",
      "  -r, --rpc-url <URL>      RPC endpoint URL for the default network",
      "      --allow-writes       Allow send_transaction through node-managed accounts",
      "      --generate-config    Generate a sample configuration file and exit",
      "      --config-path        Print the default configuration file path and exit",
      "  -h, --help               Print help",
      "  -V, --version            Print version"].map (· ++ "\n"))

/-- What the program does with its arguments. A sample is printed before anything
else is looked at. -/
def act (environment : Environment) : Invocation → Dialogue Action
  | .version => .done (.print versionText)
  | .help => .done (.print helpText)
  | .refused error => .done (.fail 2 error.message)
  | .run options =>
      if options.generateConfig then .done (.print (Config.sample ++ "\n"))
      else if options.configPath then
        match environment.defaultConfigPath with
        | some path => .done (.print (path ++ "\n"))
        | none => .done (.fail 1 "Could not determine config directory")
      else
        (prepare environment options).map fun
          | .ok server => .serve server
          | .error reason => .fail 1 reason.message

end CommandLine

end ContractClient
