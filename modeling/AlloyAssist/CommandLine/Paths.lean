import AlloyAssist.CommandLine.Options

/-!
# Where catalog files are looked for

The user's own catalog file lies in the configuration directory, which is named by
the environment; another may be named on the command line and comes after it. Without
a configuration directory only the latter is left.
-/

namespace AlloyAssist.CommandLine

/-- Put a name below a directory. -/
def joinPath (directory name : String) : String :=
  match directory.toList.getLast? with
  | none => name
  | some '/' => directory ++ name
  | some _ => directory ++ "/" ++ name

/-- What the environment says about the user's directories. -/
structure Environment where
  /-- The home directory, if there is one. -/
  home : Option String
  /-- The configuration directory, if one is set. -/
  configHome : Option String
  deriving DecidableEq, Repr

namespace Environment

/-- The usual place of the configuration directory, if there is a home directory. -/
def usualConfigDirectory? (environment : Environment) : Option String :=
  environment.home.map fun home => joinPath home ".config"

/-- The configuration directory: the one that is set, if its path is absolute, and
otherwise the usual one below the home directory. There may be none. -/
def configDirectory? (environment : Environment) : Option String :=
  match environment.configHome with
  | some directory =>
      if directory.toList.head? = some '/' then some directory
      else environment.usualConfigDirectory?
  | none => environment.usualConfigDirectory?

/-- The user's own catalog file, if there is a directory for it. -/
def userCatalog? (environment : Environment) : Option String :=
  environment.configDirectory?.map fun directory =>
    joinPath (joinPath directory "alloy-ls") "catalog.toml"

end Environment

namespace Options

/-- The catalog files to read, in order. -/
def catalogPaths (options : Options) (environment : Environment) : List String :=
  environment.userCatalog?.toList ++ options.catalog.toList

end Options

end AlloyAssist.CommandLine
