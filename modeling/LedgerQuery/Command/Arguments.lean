/-!
# Arguments of the command line

Options come before or after the query. The value of an option stands in the next argument or after
an equals sign; one letter may also have it right behind. What follows `--` is no option.
-/

namespace LedgerQuery.Command

/-- What a run is asked for. -/
structure Invocation where
  config : Option String
  rpcUrl : Option String
  fixture : Option String
  sql : String
deriving DecidableEq, Repr

inductive Request
  | run (i : Invocation)
  | help
  | version
  | misuse
deriving DecidableEq, Repr

inductive Setting
  | config
  | rpcUrl
  | fixture
deriving DecidableEq, Repr

def Setting.ofName? (name : String) : Option Setting :=
  [("config", .config), ("rpc-url", .rpcUrl), ("fixture", .fixture)].lookup name

structure Given where
  values : List (Setting × String)
  sql : Option String

namespace Given

/-- Gives an option its value, which it does not have yet. The path of a file is not empty. -/
def set (g : Given) (s : Setting) (value : String) : Option Given :=
  if (g.values.lookup s).isSome || s == .fixture && value.isEmpty then none
  else some { g with values := (s, value) :: g.values }

/-- Takes the query, which is not there yet. -/
def setSql (g : Given) (sql : String) : Option Given :=
  if g.sql.isSome then none else some { g with sql := some sql }

/-- What is asked for when no argument is left. -/
def request (g : Given) : Request :=
  match g.sql with
  | none => .misuse
  | some sql =>
    .run ⟨g.values.lookup .config, g.values.lookup .rpcUrl, g.values.lookup .fixture, sql⟩

end Given

inductive Argument
  | option (s : Setting) (value : Option String)
  | help
  | version
  | escape
  | plain (text : String)
  | unknown

/-- A long option after its two dashes. -/
def longOption (cs : List Char) : Argument :=
  let name := String.ofList (cs.takeWhile (· != '='))
  let value := match cs.dropWhile (· != '=') with
    | '=' :: v => some (String.ofList v)
    | _ => none
  match Setting.ofName? name, value with
  | some s, value => .option s value
  | none, some _ => .unknown
  | none, none => if name == "help" then .help else if name == "version" then .version else .unknown

/-- An option of one letter after its dash. -/
def shortOption : List Char → Argument
  | ['c'] => .option .config none
  | 'c' :: '=' :: v | 'c' :: v => .option .config (some (.ofList v))
  | 'h' :: _ => .help
  | 'V' :: _ => .version
  | _ => .unknown

def Argument.of (s : String) : Argument :=
  match s.toList with
  | ['-', '-'] => .escape
  | '-' :: '-' :: cs => longOption cs
  | '-' :: c :: cs => shortOption (c :: cs)
  | _ => .plain s

/-- Takes the arguments from left to right. -/
def take (g : Given) : List String → Request
  | [] => g.request
  | a :: rest =>
    match Argument.of a with
    | .help => .help
    | .version => .version
    | .unknown => .misuse
    | .escape =>
      match rest with
      | [] => g.request
      | [sql] => ((g.setSql sql).map Given.request).getD .misuse
      | _ => .misuse
    | .plain sql =>
      match g.setSql sql with
      | some g => take g rest
      | none => .misuse
    | .option s (some value) =>
      match g.set s value with
      | some g => take g rest
      | none => .misuse
    | .option s none =>
      match rest with
      | [] => .misuse
      | value :: rest =>
        match Argument.of value with
        | .plain value =>
          match g.set s value with
          | some g => take g rest
          | none => .misuse
        | _ => .misuse

def Request.ofArguments (arguments : List String) : Request := take ⟨[], none⟩ arguments

end LedgerQuery.Command
