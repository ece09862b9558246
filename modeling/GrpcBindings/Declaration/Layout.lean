import GrpcBindings.Declaration
import GrpcBindings.Document
import GrpcBindings.Text.Lines

/-!
Declarations as documents: the source text of items, members and values.
-/

namespace GrpcBindings

open Document

namespace Parameter

def text (parameter : Parameter) : Text :=
  parameter.name ++ (if parameter.isOptional then "?: " else ": ") ++ parameter.type

/-- Parameters on one line. -/
def inlineText (parameters : List Parameter) : Text :=
  Text.join ", " (parameters.map text)

end Parameter

/-- A body on its own lines between braces. The line goes on behind the closing brace. -/
def braced (body : Document) : Document :=
  line "\x7b" ++ indented body ++ text "\x7d"

/-- A comment block has its line ends already. They are found again. -/
def commentLayout (block : Text) : Document :=
  concat (block.lines.map line)

namespace Value

def isObject : Value → Bool
  | object _ => true
  | _ => false

end Value

mutual

def Value.layout : Value → Document
  | .identifier name => text name
  | .string content => text content.singleQuoted
  | .boolean flag => text (if flag then "true" else "false")
  | .object entries =>
      if entries.isEmpty then text "\x7b\x7d" else braced (Entry.layoutAll entries)
  | .cast type value =>
      text ("<" ++ type ++ ">") ++
        if value.isObject then value.layout else lineBreak ++ indented value.layout
  | .call callee arguments =>
      text callee ++ text "(" ++ Value.argumentsLayout true arguments ++ text ")"

def Entry.layout : Entry → Document
  | .mk key value => text (key.text ++ ": ") ++ value.layout ++ line ","

def Entry.layoutAll : List Entry → Document
  | [] => Document.empty
  | first :: rest => first.layout ++ Entry.layoutAll rest

/-- A comma stands before every argument but the first. -/
def Value.argumentsLayout (isFirst : Bool) : List Value → Document
  | [] => Document.empty
  | first :: rest =>
      (if isFirst then Document.empty else text ", ") ++ first.layout ++
        Value.argumentsLayout false rest

end

namespace Member

/-- With a line for each parameter, the separating comma begins the line. -/
def parametersLayout (parameters : List Parameter) (returns : Text) : ParameterLayout → Document
  | .inline => line ("(" ++ Parameter.inlineText parameters ++ "): " ++ returns ++ ";")
  | .stacked =>
      match parameters with
      | [] => line ("(): " ++ returns ++ ";")
      | first :: rest =>
          line ("( " ++ first.text) ++
            concat (rest.map fun parameter => line (", " ++ parameter.text)) ++
            line ("): " ++ returns ++ ";")

def layout : Member → Document
  | comment block => commentLayout block
  | property key type => line (key.text ++ ": " ++ type ++ ";")
  | method key parameters returns parameterLayout =>
      line key.text ++ indented (parametersLayout parameters returns parameterLayout)
  | construct parameters returns =>
      line ("new (" ++ Parameter.inlineText parameters ++ "): " ++ returns ++ ";")
  | gap => line []

end Member

namespace Item

/-- The value of a constant. An object ends it without a semicolon. -/
def initializerLayout : Value → Document
  | .object entries => braced (Entry.layoutAll entries)
  | value => value.layout ++ text ";"

def layout : Item → Document
  | comment block => commentLayout block
  | namespaceImport importAlias specifier =>
      line ("import * as " ++ importAlias ++ " from " ++ specifier.singleQuoted ++ ";")
  | function name parameters returns body =>
      line ("function " ++ name ++ "(" ++ Parameter.inlineText parameters ++ "): " ++ returns ++
          " \x7b") ++
        indented (concat (body.map line)) ++ line "\x7d"
  | interface name extended members =>
      line ("export interface " ++ name ++
          (match extended with
            | some base => " extends " ++ base
            | none => []) ++ " \x7b") ++
        indented (concat (members.map Member.layout)) ++ line "\x7d"
  | constant name type value =>
      text ("export const " ++ name ++
          (match type with
            | some type => ": " ++ type
            | none => []) ++ " = ") ++
        initializerLayout value ++ lineBreak
  | blank => line []

def print (item : Item) : Printing Unit :=
  item.layout.print

def printAll (items : List Item) : Printing Unit :=
  items.forM print

end Item
end GrpcBindings
