import AlloyAssist.Text.Blank

/-!
# Declarations and attributes

A component is declared by its type, a quoted label and an opening brace, all at
the start of one line; an attribute is a name and an equals sign. Both readers
look at the start of the line only. The classes of characters in them do not
overlap, so taking the longest run at each point never loses a reading.
-/

namespace AlloyAssist

open Text

namespace Line

/-- Characters that may start a name. -/
def isNameStart (c : Char) : Bool :=
  c.isAlpha || c == '_'

/-- Characters an attribute name may go on with. -/
def isNameChar (c : Char) : Bool :=
  c.isAlphanum || c == '_'

/-- Characters a component type may go on with: its parts are joined by dots. -/
def isTypeChar (c : Char) : Bool :=
  isNameChar c || c == '.'

end Line

/-- The head of a component block. -/
structure Declaration where
  typeName : String
  label : String
  deriving DecidableEq, Repr

namespace Declaration

/-- The name under which two declarations count as the same component. -/
def fullLabel (declaration : Declaration) : String :=
  declaration.typeName ++ "." ++ declaration.label

/-- How a declaration is named in an outline. -/
def title (declaration : Declaration) : String :=
  declaration.typeName ++ " \"" ++ declaration.label ++ "\""

/-- Read the label and the opening brace that must follow the type. -/
def readLabel? (text : List Char) : Option (List Char) :=
  match trimStart text with
  | '"' :: rest =>
      match rest.dropWhile (· != '"') with
      | '"' :: tail =>
          match trimStart tail with
          | '{' :: _ => some (rest.takeWhile (· != '"'))
          | _ => none
      | _ => none
  | _ => none

/-- Read the declaration that a line starts with. At least one blank stands
between the type and its label. -/
def read? (line : List Char) : Option Declaration :=
  match trimStart line with
  | [] => none
  | c :: rest =>
      if Line.isNameStart c then
        match rest.dropWhile Line.isTypeChar with
        | [] => none
        | gap :: tail =>
            if isBlank gap then
              (readLabel? tail).map fun label =>
                { typeName := String.ofList (c :: rest.takeWhile Line.isTypeChar)
                  label := String.ofList label }
            else none
      else none

end Declaration

namespace Attribute

/-- Read the name of the attribute that a line starts to set. -/
def read? (line : List Char) : Option String :=
  match trimStart line with
  | [] => none
  | c :: rest =>
      if Line.isNameStart c then
        match trimStart (rest.dropWhile Line.isNameChar) with
        | '=' :: _ => some (String.ofList (c :: rest.takeWhile Line.isNameChar))
        | _ => none
      else none

end Attribute

end AlloyAssist
