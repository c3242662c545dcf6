/-!
# Issues

Checking a document yields issues, each tied to a line. `Problem` names what can
be wrong; the wording and the severity of each are fixed here once.
-/

namespace AlloyAssist

/-- How much an issue weighs: only errors make a document invalid. -/
inductive Severity where
  | error
  | warning
  deriving DecidableEq, Repr

/-- A remark about one line, counted from zero. -/
structure Issue where
  line : Nat
  message : String
  severity : Severity
  deriving DecidableEq, Repr

/-- What checking can find. -/
inductive Problem where
  /-- An earlier line declares a component of the same full label. -/
  | duplicateLabel (fullLabel : String)
  /-- The catalog does not accept the component type. -/
  | unknownType (typeName : String)
  /-- The label holds nothing but blanks. -/
  | emptyLabel
  /-- The line ends at the attribute's equals sign. -/
  | missingValue (name : String)
  /-- The line holds an odd number of quotes. -/
  | unclosedString
  /-- More braces open than close. -/
  | unclosedBlock
  /-- More braces close than open. -/
  | unexpectedClosingBrace
  deriving DecidableEq, Repr

namespace Problem

/-- The wording of a problem. -/
def message : Problem → String
  | duplicateLabel fullLabel => "Duplicate component label: " ++ fullLabel
  | unknownType typeName =>
      "Unknown component type: " ++ typeName ++
        ". This may be valid but is not in the common components list."
  | emptyLabel => "Component label cannot be empty"
  | missingValue name => "Attribute '" ++ name ++ "' is missing a value"
  | unclosedString => "Unclosed string literal"
  | unclosedBlock => "Unclosed block (missing closing brace)"
  | unexpectedClosingBrace => "Unexpected closing brace"

/-- An unknown type may still be valid, everything else is an error. -/
def severity : Problem → Severity
  | unknownType _ => .warning
  | _ => .error

/-- The issue that a problem on a line gives rise to. -/
def toIssue (line : Nat) (problem : Problem) : Issue :=
  { line, message := problem.message, severity := problem.severity }

end Problem

/-- Issues in the order in which they were found. -/
structure Report where
  issues : List Issue
  deriving DecidableEq, Repr

namespace Report

/-- Nothing found yet. -/
def empty : Report := ⟨[]⟩

/-- Append an issue. -/
def add (report : Report) (issue : Issue) : Report :=
  ⟨report.issues ++ [issue]⟩

/-- Append an error. -/
def addError (report : Report) (line : Nat) (message : String) : Report :=
  report.add { line, message, severity := .error }

/-- Append a warning. -/
def addWarning (report : Report) (line : Nat) (message : String) : Report :=
  report.add { line, message, severity := .warning }

/-- Nothing at all was found. -/
def isEmpty (report : Report) : Bool :=
  report.issues.isEmpty

/-- Nothing worse than a warning was found. -/
def isValid (report : Report) : Bool :=
  report.issues.all fun issue => issue.severity != .error

end Report

end AlloyAssist
