import GrpcBindings.Text

/-!
The command line. Arguments are read from left to right, and a request for help or for the version
is granted where it is met, whatever comes behind it.
-/

namespace GrpcBindings

/-- What a command line asks for. -/
inductive Command where
  | help
  | version
  /-- Answer one request on the standard streams. -/
  | serve
  | generate (setPath directory parameter : Text) (files : List Text)
  deriving DecidableEq, Repr

namespace CommandLine

/-- The options that take a value. -/
inductive ValueOption where
  | descriptorSet
  | out
  | parameter
  deriving DecidableEq, Repr

namespace ValueOption

def ofName? (name : Text) : Option ValueOption :=
  if name = "descriptor-set" then some descriptorSet
  else if name = "out" then some out
  else if name = "parameter" then some parameter
  else none

end ValueOption

/-- What has been read of a command line. -/
structure Arguments where
  descriptorSet : Option Text := none
  out : Option Text := none
  parameter : Option Text := none
  files : List Text := []
  deriving DecidableEq, Repr

namespace Arguments

/-- Gives an option its value. An option has one value, and a path is not empty. -/
def assign? (arguments : Arguments) (value : Text) : ValueOption → Option Arguments
  | .descriptorSet =>
      if arguments.descriptorSet.isSome || value.isEmpty then none
      else some { arguments with descriptorSet := some value }
  | .out =>
      if arguments.out.isSome || value.isEmpty then none
      else some { arguments with out := some value }
  | .parameter =>
      if arguments.parameter.isSome then none
      else some { arguments with parameter := some value }

def addFiles (arguments : Arguments) (files : List Text) : Arguments :=
  { arguments with files := arguments.files ++ files }

/-- A set and a directory come together, and files only with them. -/
def command? (arguments : Arguments) : Option Command :=
  match arguments.descriptorSet, arguments.out with
  | some setPath, some directory =>
      some (.generate setPath directory (arguments.parameter.getD []) arguments.files)
  | none, none => if arguments.files.isEmpty then some .serve else none
  | _, _ => none

end Arguments

/-- A single dash is a value like others. -/
def isFlag (argument : Text) : Bool :=
  argument.head? = some '-' && argument ≠ ['-']

/-- The command of the arguments that follow what has been read. Rejected arguments have none. -/
def read (arguments : Arguments) : List Text → Option Command
  | [] => arguments.command?
  | ['-', '-'] :: files => (arguments.addFiles files).command?
  | ('-' :: '-' :: long) :: rest =>
      match Text.cut? '=' long with
      | some (name, value) =>
          match (ValueOption.ofName? name).bind (arguments.assign? value) with
          | some arguments => read arguments rest
          | none => none
      | none =>
          if long = "help" then some .help
          else if long = "version" then some .version
          else
            match ValueOption.ofName? long, rest with
            | some option, value :: rest =>
                if isFlag value then none
                else
                  match arguments.assign? value option with
                  | some arguments => read arguments rest
                  | none => none
            | _, _ => none
  | ('-' :: 'h' :: _) :: _ => some .help
  | ('-' :: 'V' :: _) :: _ => some .version
  | argument :: rest =>
      if isFlag argument then none else read (arguments.addFiles [argument]) rest

def parse (arguments : List Text) : Option Command :=
  read {} arguments

def versionText : Text := "protoc-gen-tsgrpc 0.3.0\n"

def helpText : Text :=
  Text.join "\n"
    [
      "Generate TypeScript gRPC bindings from protobuf services",
      "",
      "Usage: protoc-gen-tsgrpc [OPTIONS] [FILES]...",
      "",
      "Arguments:",
      "  [FILES]...  Schema files to generate (default: every file in the descriptor set)",
      "",
      "Options:",
      "      --descriptor-set <DESCRIPTOR_SET>",
      "          Binary FileDescriptorSet to read instead of a plugin request on stdin",
      "      --out <OUT>",
      "          Output directory for generated modules",
      "      --parameter <PARAMETER>",
      "          Generator options (e.g., runtime_module=@grpc/grpc-js) [default: \"\"]",
      "  -h, --help",
      "          Print help",
      "  -V, --version",
      "          Print version",
      ""
    ]

end CommandLine
end GrpcBindings
