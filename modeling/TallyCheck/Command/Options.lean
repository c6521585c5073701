/-! # Options of the checking command

Arguments are read from left to right: long flags, short flags that may stand together behind one
dash, and one file.  A flag stands at most once and takes no value; two dashes alone end the flags.
What is asked for or refused first is what counts.
-/
namespace TallyCheck
set_option autoImplicit false

inductive Flag where
  | trace | context | verbose | help | version
  deriving DecidableEq

namespace Flag

def all : List Flag := [trace, context, verbose, help, version]

def long : Flag → String
  | trace => "trace"
  | context => "context"
  | verbose => "verbose"
  | help => "help"
  | version => "version"

def short : Flag → Char
  | trace => 't'
  | context => 'c'
  | verbose => 'v'
  | help => 'h'
  | version => 'V'

end Flag

structure Options where
  flags : List Flag
  file : Option String

inductive Invocation where
  | check (flags : List Flag) (file : String)
  | help
  | version
  | refused
  deriving DecidableEq

namespace Options

def empty : Options := ⟨[], none⟩

def addFlag (flag : Flag) (options : Options) : Except Invocation Options :=
  match flag with
  | .help => .error .help
  | .version => .error .version
  | _ =>
    if flag ∈ options.flags then .error .refused
    else .ok { options with flags := flag :: options.flags }

def addLong (name : String) (options : Options) : Except Invocation Options :=
  match Flag.all.find? fun flag => flag.long = name with
  | some flag => options.addFlag flag
  | none => .error .refused

def addShort : List Char → Options → Except Invocation Options
  | [], options => .ok options
  | c :: cs, options =>
    match Flag.all.find? fun flag => flag.short = c with
    | some flag =>
      match options.addFlag flag with
      | .ok more => addShort cs more
      | .error invocation => .error invocation
    | none => .error .refused

/-- One file may be named, and not by an empty name. -/
def addFile (file : String) (options : Options) : Except Invocation Options :=
  if options.file.isSome || file = "" then .error .refused
  else .ok { options with file := some file }

def addArgument (argument : String) (options : Options) : Except Invocation Options :=
  match argument.toList with
  | '-' :: '-' :: name => options.addLong (String.ofList name)
  | '-' :: c :: cs => options.addShort (c :: cs)
  | _ => options.addFile argument

/-- What the arguments ask for, when options have been read from those before them. -/
def read (options : Options) (flagsEnded : Bool) : List String → Invocation
  | [] =>
    match options.file with
    | some file => .check options.flags file
    | none => .refused
  | argument :: arguments =>
    if !flagsEnded && argument = "--" then options.read true arguments
    else
      match if flagsEnded then options.addFile argument else options.addArgument argument with
      | .ok more => more.read flagsEnded arguments
      | .error invocation => invocation

end Options

def Invocation.ofArguments (arguments : List String) : Invocation :=
  Options.empty.read false arguments

end TallyCheck
