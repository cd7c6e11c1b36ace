import HotSchema.Shell.Run
/-!
# Programs

A program is run with arguments in a directory. It may read and write files, it writes to its output and
its error channel, and it ends with a status or by a signal, or it never ends. Its input is empty.

The shell is a program, and so are a few that every system has. They are found by their names in the
directories for programs.
-/

namespace HotSchema.Shell

inductive Ending where
  | exited (status : Nat)
  | killed (signal : Nat)
  | never
  deriving DecidableEq

structure Finished where
  ending : Ending
  output : Octets
  errors : Octets
  files : FileTree

/-- The rounds that all loops of a shell may take together before it counts as one that never ends. -/
def maxRounds : Nat := 100000

def maxDepth : Nat := 12000

def Machine.start (files : FileTree) (here : Route) (self : Octets) : Machine :=
  let path := "/" ++ "/".intercalate here
  { files, here, self
    bindings := Roster.ofList
      [⟨"IFS", " \t\n".toList, false⟩, ⟨"OPTIND", ['1'], false⟩,
        ⟨"PATH", "/usr/local/sbin:/usr/local/bin:/usr/sbin:/usr/bin:/sbin:/bin".toList, false⟩,
        ⟨"PPID", ['1'], false⟩, ⟨"PWD", Octets.ofText path, false⟩]
    functions := ∅
    arguments := []
    channels := [.source [], .stream [], .stream []]
    descriptors := [(0, 0), (1, 1), (2, 2)]
    status := 0
    outputStatus := none
    stopOnFailure := false
    stopOnMissing := false
    noPaths := false
    readOnly := false
    locals := []
    traps := []
    inLoops := 0
    rounds := maxRounds }

/-- Runs an action, and at its end the action that waits for it. -/
def wholeProgram (a : Action Unit) : Action Unit := do
  match ← attempt a with
  | some (.killed signal) => throw (.killed signal)
  | some .budget => throw .budget
  | _ => runEnd (run maxDepth false)

def Machine.finish (m : Machine) (a : Action Unit) : Finished :=
  let (stop, m) := ((wholeProgram a).run).run m
  let ending : Ending := match stop with
    | .error (.killed signal) => .killed signal
    | .error .budget => .never
    | _ => .exited m.status
  ⟨ending, m.written 1, m.written 2, m.files⟩

structure Invocation where
  machine : Machine
  /-- The text to run is the next argument. -/
  isText : Bool
  arguments : List Octets

def optionLetters : Octets := "abCceEfhIilmnpsuvVx".toList

def takeOptions : Invocation → List Octets → Except Char Invocation
  | i, ['-', '-'] :: rest => .ok { i with arguments := rest }
  | i, ['-'] :: rest => .ok { i with arguments := rest }
  | i, ['-', 'o'] :: name :: rest =>
    match optionLetter? name with
    | some letter => takeOptions { i with machine := setOption true i.machine letter } rest
    | none => .error 'o'
  | i, ('-' :: letters) :: rest =>
    match letters.find? fun c => c ∉ optionLetters with
    | some c => .error c
    | none =>
      takeOptions
        { i with
          machine := letters.foldl (setOption true) i.machine
          isText := i.isText || 'c' ∈ letters } rest
  | i, ('+' :: letters) :: rest =>
    takeOptions { i with machine := letters.foldl (setOption false) i.machine } rest
  | i, rest => .ok { i with arguments := rest }

def runScript (text : Octets) : Action Unit := runText (run maxDepth false) text.length.succ text

/-- Runs a shell: a text behind the option for one, else a file, else nothing. -/
def runShell (self : Octets) (arguments : List Octets) (files : FileTree) (here : Route) : Finished :=
  let m := Machine.start files here self
  let refuse (message : String) : Finished :=
    ⟨.exited 2, [], self ++ (": 0: " ++ message ++ "\n").toList, files⟩
  match takeOptions ⟨m, false, []⟩ arguments with
  | .error c => refuse s!"Illegal option -{c}"
  | .ok i =>
    match i.isText, i.arguments with
    | true, [] => refuse "-c requires an argument"
    | true, [text] => i.machine.finish (runScript text)
    | true, text :: self :: arguments => { i.machine with self, arguments }.finish (runScript text)
    | false, [] => i.machine.finish (pure ())
    | false, path :: arguments =>
      match files.read here (Octets.toText path) with
      | .error _ => refuse ("cannot open " ++ String.ofList path)
      | .ok content =>
        { i.machine with self := path, arguments }.finish (runScript (Octets.ofBytes content))

abbrev Program := List Octets → FileTree → Route → Finished

def builtinProgram (a : List Octets → Action Unit) : Program := fun arguments files here =>
  (Machine.start files here []).finish (a arguments)

def echoProgram (arguments : List Octets) : Action Unit :=
  match arguments with
  | ['-', 'n'] :: rest => print (joinWith [' '] rest) 0
  | arguments => print (joinWith [' '] arguments ++ ['\n']) 0

def concatenate : List Octets → Action Unit
  | [] => pure ()
  | path :: rest => do
    let m ← get
    match m.files.read m.here (Octets.toText path) with
    | .ok content => print (Octets.ofBytes content) m.status
    | .error e => complain 1 ("cat: ".toList ++ path ++ ": ".toList ++ e.message.toList)
    concatenate rest

def program? (name : String) : Option Program :=
  let builtin (name : String) : Program :=
    builtinProgram fun arguments => (builtin? name arguments).getD (pure ())
  match name with
  | "sh" => some (runShell "sh".toList)
  | "dash" => some (runShell "dash".toList)
  | "true" => some (builtin "true")
  | "false" => some (builtin "false")
  | "test" => some (builtin "test")
  | "[" => some (builtin "[")
  | "printf" => some (builtin "printf")
  | "echo" => some (builtinProgram echoProgram)
  | "cat" => some (builtinProgram concatenate)
  | _ => none

def programRoutes : List Route := [["bin"], ["usr", "bin"]]

/-- The program that a name stands for: a path to it, or a name that is looked for. -/
def findProgram (name : String) (files : FileTree) (here : Route) : Except FileError Program :=
  if name.contains '\x00' then .error .zeroByte
  else if name.contains '/' then
    match files.resolve here name with
    | .error e => .error e
    | .ok route =>
      match route.getLast?, program? (route.getLast?.getD "") with
      | some _, some p =>
        if route.dropLast ∈ programRoutes then .ok p
        else .error (if (files.node? route).isSome then .permissionDenied else .notFound)
      | _, _ => .error (if (files.node? route).isSome then .permissionDenied else .notFound)
  else if name = "." || name = ".." then .error .permissionDenied
  else if 255 < name.utf8ByteSize then .error .nameTooLong
  else
    match program? name with
    | some p => .ok p
    | none => .error .notFound

end HotSchema.Shell
