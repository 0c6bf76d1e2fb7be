import LedgerQuery.Command.Arguments
import LedgerQuery.Node.Ledger
import LedgerQuery.Node.Remote
import LedgerQuery.Query.Run
import LedgerQuery.Report.Grid
import LedgerQuery.Settings.Basic
import LedgerQuery.Sql.Planner

/-!
# Runs of the command

A run loads the settings, finds its node, plans the query, runs it and shows the result. The first
of these that fails is what the run fails with.
-/

namespace LedgerQuery.Command

open Node (Connection Endpoint Ledger Reply)

/-- What a run finds outside: files by their paths, variables, and the replies of the node of this
machine. -/
structure World where
  files : List (String × String)
  environment : List (String × String)
  replies : List Reply

inductive Outcome
  | printed (lines : List String)
  | failed (message : String)
  | misused
deriving DecidableEq, Repr

def versionText : List String := ["chainql 0.1.0"]

def helpText : List String := [
  "Run SQL against a blockchain node",
  "",
  "Usage: chainql [OPTIONS] <SQL>",
  "",
  "Arguments:",
  "  <SQL>  The query, e.g. \"SELECT hash, gas FROM transactions WHERE blocknumber = 1652339\"",
  "",
  "Options:",
  "  -c, --config <CONFIG>    Settings file; defaults to CHAINQL_CONFIG_PATH or " ++
    "config/default.toml",
  "      --rpc-url <RPC_URL>  Node endpoint, overriding the configured rpc_url",
  "      --fixture <FIXTURE>  JSON array of blocks to query instead of a live node",
  "  -h, --help               Print help",
  "  -V, --version            Print version"]

/-- The settings file of a run that names none. -/
def defaultConfig (environment : List (String × String)) : String :=
  (environment.lookup "CHAINQL_CONFIG_PATH").getD "config/default.toml"

def paths (environment : List (String × String)) (arguments : List String) : List String :=
  match Request.ofArguments arguments with
  | .run i => i.config.getD (defaultConfig environment) :: i.fixture.toList
  | .help | .version | .misuse => []

/-- A settings file is told by its ending. -/
def isSettingsFile (path : String) : Bool := path.endsWith ".toml"

def document (w : World) (path : String) : Option String :=
  if isSettingsFile path then w.files.lookup path else none

/-- The settings of a run. An address on the command line wins. -/
def settings (w : World) (i : Invocation) : Except Settings.Fault Settings := do
  let s ← match i.config with
    | some path => Settings.load true (document w path) w.environment
    | none => Settings.load false (document w (defaultConfig w.environment)) w.environment
  .ok { s with rpcUrl := i.rpcUrl.getD s.rpcUrl }

def shown : Except Query.Error Query.ResultSet → Outcome
  | .error e => .failed ("Query failed: " ++ e.message)
  | .ok r =>
    match Report.ofResult? r with
    | some lines => .printed lines
    | none => .failed ("Failed to render result: Invalid argument error: "
        ++ "must either specify a row count or at least one column")

/-- Plans a query and runs it against a client. -/
def query {σ : Type} (c : Node.Client σ) (s : σ) (sql : String) : Outcome :=
  match Sql.plan sql with
  | .error e => .failed ("Failed to plan query: " ++ e.message)
  | .ok p => shown (Query.run c p s).1

/-- The connection of a run. Without time to wait no reply comes. -/
def connection (w : World) (s : Settings) : Connection :=
  .start (Endpoint.ofUrl? s.rpcUrl == some .localNode && s.requestTimeoutSecs != 0) w.replies

def execute (w : World) (i : Invocation) : Outcome :=
  match settings w i with
  | .error f => .failed f.message
  | .ok s =>
    match i.fixture with
    | none => query Connection.client (connection w s) i.sql
    | some path =>
      match w.files.lookup path with
      | none => .failed ("Failed to read " ++ path ++ ": No such file or directory (os error 2)")
      | some text =>
        match Ledger.ofJson text with
        | .error f => .failed ("Node client error: " ++ f.message)
        | .ok l => query Ledger.client l i.sql

def run (w : World) (arguments : List String) : Outcome :=
  match Request.ofArguments arguments with
  | .misuse => .misused
  | .help => .printed helpText
  | .version => .printed versionText
  | .run i => execute w i

end LedgerQuery.Command
