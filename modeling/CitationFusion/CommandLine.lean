/-!
# The command line

The program takes the path of its configuration (`-c`, `--config`) and perhaps the wish for the
sizes of the stores (`--info`). A value follows its option or is attached to it, `-cX`, `-c=X` or
`--config=X`, and is never empty. Behind `--` there are no options any more, and there is nothing
else to say.

Words are read in order and the first thing that is wrong counts. A value that follows its option
is looked at only when the next option begins or nothing is left, so a word that has no meaning
is found before it.
-/

namespace CitationFusion

/-- What the program is told. -/
structure CommandLine where
  /-- The path of the configuration. -/
  config : String
  /-- Whether the sizes of the stores are wanted instead of the service. -/
  info : Bool
  deriving DecidableEq, Repr

namespace CommandLine

/-- Why the program does not start. -/
inductive Refusal where
  | help
  | version
  /-- An option lacks its value, or the value is empty. -/
  | invalidValue
  /-- A value is attached to an option that has none. -/
  | surplusValue
  /-- An option is given twice. -/
  | conflict
  | unknown
  /-- The path of the configuration is missing. -/
  | missing
  deriving DecidableEq, Repr

/-- The code that the program ends with. -/
def Refusal.exitCode : Refusal → Nat
  | .help | .version => 0
  | _ => 2

/-- How the program is used. -/
def usage : String :=
  "Usage: citation-fusion [OPTIONS] --config <FILE>\n\n" ++
  "Options:\n" ++
  "  -c, --config <FILE>\n" ++
  "      --info           Print store sizes and exit\n" ++
  "  -h, --help           Print help\n" ++
  "  -V, --version        Print version"

/-- The option with a value that was read last. -/
inductive Pending where
  | nothing
  /-- Its value has yet to come. -/
  | open
  | value (s : String)
  deriving DecidableEq, Repr

/-- What was read so far. -/
structure Draft where
  config : Option String
  info : Bool
  pending : Pending
  deriving DecidableEq, Repr

/-- Takes the path of the configuration. -/
def Draft.setConfig (d : Draft) (path : String) : Except Refusal Draft :=
  if d.config.isSome then .error .conflict
  else if path.isEmpty then .error .invalidValue
  else .ok { d with config := some path, pending := .nothing }

/-- Looks at the value of the last option. -/
def Draft.settle (d : Draft) : Except Refusal Draft :=
  match d.pending with
  | .nothing => .ok d
  | .open => .error .invalidValue
  | .value path => d.setConfig path

/-- An option with a value that may be attached. -/
def Draft.takeConfig (d : Draft) : Option String → Except Refusal Draft
  | some path => do (← d.settle).setConfig path
  | none => return { ← d.settle with pending := .open }

/-- The wish for the sizes of the stores. -/
def Draft.takeInfo (d : Draft) : Except Refusal Draft := do
  let d ← d.settle
  if d.info then .error .conflict else return { d with info := true }

/-- A wish that ends the reading. -/
def Draft.stop (d : Draft) (wish : Refusal) : Except Refusal Draft := do
  let _ ← d.settle
  .error wish

/-- An option with a long name, and the value attached to it. -/
def Draft.takeLong (d : Draft) (name : String) (value : Option String) : Except Refusal Draft :=
  if name == "config" then d.takeConfig value
  else if name == "info" || name == "help" || name == "version" then
    if value.isSome then .error .surplusValue
    else if name == "info" then d.takeInfo
    else if name == "help" then d.stop .help
    else d.stop .version
  else .error .unknown

/-- An option with a short name, and what follows it in the word. -/
def Draft.takeShort (d : Draft) (name : Char) (rest : List Char) : Except Refusal Draft :=
  if name == 'c' then
    d.takeConfig <|
      match rest with
      | [] => none
      | '=' :: value => some (String.ofList value)
      | value => some (String.ofList value)
  else if name == 'h' then d.stop .help
  else if name == 'V' then d.stop .version
  else .error .unknown

/-- A word that is no option. -/
def Draft.takeWord (d : Draft) (word : String) : Except Refusal Draft :=
  match d.pending with
  | .open => .ok { d with pending := .value word }
  | _ => .error .unknown

/-- The name of a long option and the value attached to it. -/
def splitOption (cs : List Char) : String × Option String :=
  match cs.dropWhile (· != '=') with
  | [] => (String.ofList cs, none)
  | _ :: value => (String.ofList (cs.takeWhile (· != '=')), some (String.ofList value))

/-- Reads words. -/
def Draft.takeAll (d : Draft) : List String → Except Refusal Draft
  | [] => d.settle
  | word :: rest =>
    match word.toList with
    | ['-', '-'] => if rest.isEmpty then d.settle else .error .unknown
    | '-' :: '-' :: cs => do
      let (name, value) := splitOption cs
      (← d.takeLong name value).takeAll rest
    | '-' :: name :: cs => do (← d.takeShort name cs).takeAll rest
    | _ => do (← d.takeWord word).takeAll rest

/-- Reads the words that follow the name of the program. -/
def parse (words : List String) : Except Refusal CommandLine := do
  let d ← Draft.takeAll ⟨none, false, .nothing⟩ words
  match d.config with
  | some config => return ⟨config, d.info⟩
  | none => .error .missing

end CommandLine

end CitationFusion
