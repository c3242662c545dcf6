/-!
# Command line options

The program takes two settings, each with a value, and two flags that ask for a text
instead of a run. Arguments are read from left to right. A setting's value is judged
when the next known option or the end is reached, so an argument that is not known at
all is reported before a bad value right in front of it.
-/

namespace AlloyAssist.CommandLine

/-- What the command line asks for. -/
structure Options where
  /-- A catalog file to read besides the user's own. -/
  catalog : Option String
  logLevel : String
  deriving DecidableEq, Repr

/-- Why the program does not start. -/
inductive Refusal where
  /-- An argument that means nothing here. -/
  | unknownArgument
  /-- A setting without a value, or with one that is not allowed. -/
  | invalidValue
  /-- A setting that is given twice. -/
  | repeatedSetting
  /-- A value for a flag that takes none. -/
  | unneededValue
  | helpRequested
  | versionRequested
  deriving DecidableEq, Repr

/-- The text printed for `--help`. -/
def helpText : String :=
  "Language server for Grafana Alloy configuration files\n\n" ++
  "Usage: alloy-ls [OPTIONS]\n\n" ++
  "Options:\n" ++
  "      --catalog <CATALOG>      TOML file adding known components and attributes\n" ++
  "      --log-level <LOG_LEVEL>  Log level (trace, debug, info, warn, error) [default: info]\n" ++
  "  -h, --help                   Print help\n" ++
  "  -V, --version                Print version\n"

/-- The text printed for `--version`. -/
def versionText : String :=
  "alloy-ls 0.1.0\n"

namespace Refusal

/-- What is printed before leaving; only the flags ask for a text. -/
def output : Refusal → String
  | helpRequested => helpText
  | versionRequested => versionText
  | _ => ""

/-- The exit code of the program. Answering a flag is a success. -/
def exitCode : Refusal → Nat
  | helpRequested => 0
  | versionRequested => 0
  | _ => 2

end Refusal

/-- The options that take a value. -/
inductive Setting where
  | catalog
  | logLevel
  deriving DecidableEq, Repr

/-- The options that take none. -/
inductive Flag where
  | help
  | version
  deriving DecidableEq, Repr

namespace Flag

/-- The text that a flag asks for is printed in place of a run. -/
def refusal : Flag → Refusal
  | help => .helpRequested
  | version => .versionRequested

end Flag

/-- One argument on its own, before its surroundings are looked at. -/
inductive Argument where
  /-- The double dash, behind which nothing is an option. -/
  | terminator
  | setting (setting : Setting) (value : Option String)
  | flag (flag : Flag) (value : Option String)
  /-- Looks like an option but is none. -/
  | unknownOption
  | plain (text : String)
  deriving DecidableEq, Repr

namespace Argument

/-- An option written with two dashes; a value may follow behind an equals sign. -/
def ofLong (name : String) (value : Option String) : Argument :=
  match name with
  | "catalog" => setting .catalog value
  | "log-level" => setting .logLevel value
  | "help" => flag .help value
  | "version" => flag .version value
  | _ => unknownOption

/-- Take an argument by its form. Of letters behind one dash the first decides. -/
def ofString (text : String) : Argument :=
  match text.toList with
  | ['-', '-'] => terminator
  | '-' :: '-' :: rest =>
      let name := String.ofList (rest.takeWhile (· != '='))
      match rest.dropWhile (· != '=') with
      | [] => ofLong name none
      | _ :: value => ofLong name (some (String.ofList value))
  | '-' :: 'h' :: _ => flag .help none
  | '-' :: 'V' :: _ => flag .version none
  | '-' :: _ :: _ => unknownOption
  | _ => plain text

end Argument

/-- A setting that has been named and not yet judged, with its value if that has
come. -/
structure Pending where
  setting : Setting
  value : Option String
  deriving DecidableEq, Repr

/-- What has been read so far. -/
structure Reading where
  catalog : Option String
  logLevel : Option String
  pending : Option Pending
  deriving DecidableEq, Repr

namespace Reading

/-- Nothing read yet. -/
def start : Reading := ⟨none, none, none⟩

/-- Judge a setting: it needs a value, comes once, and a catalog has a name. -/
def assign (reading : Reading) (pending : Pending) : Except Refusal Reading :=
  match pending.setting, pending.value with
  | _, none => .error .invalidValue
  | .catalog, some value =>
      if reading.catalog.isSome then .error .repeatedSetting
      else if value = "" then .error .invalidValue
      else .ok { reading with catalog := some value }
  | .logLevel, some value =>
      if reading.logLevel.isSome then .error .repeatedSetting
      else .ok { reading with logLevel := some value }

/-- Judge the setting that is still open, if any. -/
def settle (reading : Reading) : Except Refusal Reading :=
  match reading.pending with
  | none => .ok reading
  | some pending => { reading with pending := none }.assign pending

/-- Take one argument in. -/
def take (reading : Reading) (argument : Argument) : Except Refusal Reading :=
  match argument with
  | .setting setting value => do
      let reading ← reading.settle
      match value with
      | some _ => reading.assign ⟨setting, value⟩
      | none => return { reading with pending := some ⟨setting, none⟩ }
  | .flag flag none => do
      let _ ← reading.settle
      .error flag.refusal
  | .flag _ (some _) => .error .unneededValue
  | .plain text =>
      match reading.pending with
      | some ⟨setting, none⟩ => .ok { reading with pending := some ⟨setting, some text⟩ }
      | _ => .error .unknownArgument
  | .unknownOption => .error .unknownArgument
  | .terminator => .error .unknownArgument

/-- Take all arguments in. Behind a double dash nothing may follow. -/
def takeAll (reading : Reading) : List String → Except Refusal Reading
  | [] => reading.settle
  | text :: texts =>
      match Argument.ofString text with
      | .terminator => if texts.isEmpty then reading.settle else .error .unknownArgument
      | argument => (reading.take argument).bind (takeAll · texts)

end Reading

namespace Options

/-- The level that is logged unless another is asked for. -/
def defaultLogLevel : String := "info"

/-- Read the arguments of the program. -/
def parse (arguments : List String) : Except Refusal Options :=
  (Reading.start.takeAll arguments).map fun reading =>
    { catalog := reading.catalog, logLevel := reading.logLevel.getD defaultLogLevel }

end Options

end AlloyAssist.CommandLine
