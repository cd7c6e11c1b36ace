import HotSchema.Diagnostic.Line
import HotSchema.Settings
import HotSchema.Shell.Program
import HotSchema.Toolchain.Basic
/-!
# Compilers that are programs

A call of a program gets a directory of its own: the batch is written to `src`, one file a unit, its
siblings to `lib`, and the program leaves compiled units in `out`. Its arguments may name these three
directories. What it prints is read as diagnostics, first the output, then the error channel, and lines
that are no diagnostics are passed over. A program that fails without reporting an error is itself
reported.

Names of units become names of files, so only some names are allowed. If a unit of the batch has
another, that is what is reported, and no program runs.
-/

namespace HotSchema

open Shell

def unitExtension : String := ".unit"

def isFileOctet (c : Char) : Bool := c.isAlphanum || c == '_' || c == '-' || c == '$'

/-- Letters, digits and a few signs, in parts between dots of which none is empty. -/
def isFileSafe (name : String) : Bool :=
  (Text.segments (· == '.') name.toList).all fun part => !part.isEmpty && part.all isFileOctet

namespace Process

def rejection (unit : SourceUnit) : Diagnostic :=
  .error unit.name 0 s!"unit name `{unit.name}` cannot be used as a file name"

def workspace : Route := ["tmp", ".tmpWorkspace"]

def part (name : String) : Route := workspace ++ [name]

def pathOf (route : Route) : String := "/" ++ "/".intercalate route

def writeAll (directory : Route) : List (String × ByteArray) → FileTree → Except FileError FileTree
  | [], files => .ok files
  | (name, content) :: rest, files =>
    match files.write directory name content false with
    | .error e => .error e
    | .ok files => writeAll directory rest files

/-- The system with the directory of a call, before the program runs. -/
def prepare (call : CompilerCall) : Except FileError FileTree :=
  let directories : FileTree :=
    [workspace, part "src", part "lib", part "out"].map fun route => (route, FileNode.directory)
  let sources := call.batch.map fun unit => (unit.name ++ sourceExtension, unit.text.toUTF8)
  let siblings := (call.siblings.filter (isFileSafe ·.name)).map fun unit =>
    (unit.name ++ unitExtension, unit.payload)
  match writeAll (part "src") sources (FileTree.standard ++ directories) with
  | .error e => .error e
  | .ok files => writeAll (part "lib") siblings files

/-- An argument with the directories for the words that stand for them. -/
def expandArgument (argument : String) : String :=
  let put (word : String) (directory : String) (s : List Char) : List Char :=
    Text.replaceAll word.toList (pathOf (part directory)).toList s
  String.ofList (put "\x7bout\x7d" "out" (put "\x7blib\x7d" "lib" (put "\x7bsrc\x7d" "src" argument.toList)))

def diagnosticsOf (channel : Octets) : List Diagnostic :=
  (Text.linesOf (Octets.toText channel)).filterMap Diagnostic.ofLine?

def unitOfFile? (file : String) : Option String :=
  ((Text.dropSuffix? unitExtension.toList file.toList).map String.ofList).filter isFileSafe

def collect (files : FileTree) : Except FileError (List CompiledUnit) :=
  let names := ((files.list (part "out")).filterMap unitOfFile?).mergeSort fun a b => a ≤ b
  names.mapM fun name => do
    let payload ← files.read (part "out") (name ++ unitExtension)
    .ok ⟨name, payload⟩

/-- How a program ended, as it is reported; nothing if it succeeded. -/
def failure? : Ending → Option String
  | .exited 0 | .never => none
  | .exited status => some s!"exit status: {status}"
  | .killed signal =>
    let name := match signalName? signal with
      | some name => s!" (SIG{name})"
      | none => ""
    some s!"signal: {signal}{name}"

def report (program : String) (f : Finished) : Except EngineError CompilerOutput :=
  let printed := diagnosticsOf f.output ++ diagnosticsOf f.errors
  if printed.any Diagnostic.isError then .ok ⟨printed, []⟩
  else
    match failure? f.ending with
    | some how => .ok ⟨printed ++ [.error "toolchain" 0 s!"{program} exited with {how}"], []⟩
    | none =>
      match collect f.files with
      | .error e => .error (.workspace e)
      | .ok units => .ok ⟨printed, units⟩

def startFailure : FileError → String
  | .zeroByte => "nul byte found in provided data"
  | e => e.message

end Process

def Compiler.process (command : CompilerCommand) : Compiler := fun call =>
  match (call.batch.filter (!isFileSafe ·.name)).map Process.rejection with
  | [] =>
    match Process.prepare call with
    | .error e => ⟨.immediate, .error (.workspace e)⟩
    | .ok files =>
      let arguments := command.args.map Process.expandArgument
      let found : Except FileError Program :=
        if arguments.any (·.contains '\x00') then .error .zeroByte
        else findProgram command.program files Process.workspace
      match found with
      | .error e =>
        ⟨.immediate, .error (.toolchainUnavailable command.program (Process.startFailure e))⟩
      | .ok program =>
        let f := program (arguments.map Octets.ofText) files Process.workspace
        ⟨if f.ending = .never then .endless else .immediate, Process.report command.program f⟩
  | rejections => ⟨.immediate, .ok ⟨rejections, []⟩⟩

end HotSchema
