import HotSchema.Shell.Condition
import HotSchema.Shell.Expansion
import HotSchema.Shell.Format
import HotSchema.Shell.Signal
/-!
# Built-in commands

The commands that a shell carries out itself and that run no other command. Each works on its arguments
and leaves a status.
-/

namespace HotSchema.Shell

/-- Writes to the output, which fails if it is closed. -/
def print (octets : Octets) (status : Nat) : Action Unit := do
  match (← get).write? 1 octets with
  | some m => set { m with status }
  | none => setStatus 1

def printFormatted (format : Octets) (arguments : List Octets) : Action Unit := do
  let p := printfText format arguments
  for (argument, fault) in p.faults.reverse do
    complain p.status ("printf: ".toList ++ argument ++ (": " ++ fault).toList)
  print p.output.reverse p.status

def count? (a : Octets) : Option Nat := numeralIn? 10 a

def illegalNumber {α : Type} (a : Octets) : Action α := fail 2 ("Illegal number: " ++ String.ofList a)

def givenStatus (arguments : List Octets) : Action Unit :=
  match arguments with
  | [] => pure ()
  | a :: _ =>
    match count? a with
    | some n => setStatus (n % 256)
    | none => illegalNumber a

/-- Stops as many loops as the argument says, no more than are under way. -/
def stopLoops (again : Bool) (arguments : List Octets) : Action Unit := do
  let m ← get
  let levels ← match arguments with
    | [] => pure 1
    | a :: _ =>
      match count? a with
      | some n => if n = 0 then illegalNumber a else pure n
      | none => illegalNumber a
  setStatus 0
  if m.inLoops = 0 then pure () else throw (.loops (min levels m.inLoops) again)

def shift (arguments : List Octets) : Action Unit := do
  let m ← get
  let n ← match arguments with
    | [] => pure 1
    | a :: _ =>
      match count? a with
      | some n => pure n
      | none => illegalNumber a
  if m.arguments.length < n then fail 2 "shift: can't shift that many"
  else set { m with arguments := m.arguments.drop n, status := 0 }

def setOption (on : Bool) (m : Machine) (letter : Char) : Machine :=
  match letter with
  | 'e' => { m with stopOnFailure := on }
  | 'u' => { m with stopOnMissing := on }
  | 'f' => { m with noPaths := on }
  | 'n' => { m with readOnly := on }
  | _ => m

def optionNames : List (String × Char) :=
  [("errexit", 'e'), ("nounset", 'u'), ("noglob", 'f'), ("noexec", 'n'), ("allexport", 'a'),
    ("noclobber", 'C'), ("notify", 'b'), ("verbose", 'v'), ("xtrace", 'x'), ("monitor", 'm')]

def optionLetter? (name : Octets) : Option Char := optionNames.lookup (String.ofList name)

/-- Options, then new arguments if there are any or two dashes come before them. -/
def setOptions : List Octets → Action Unit
  | [] => setStatus 0
  | ['-', '-'] :: rest => modify fun m => { m with arguments := rest, status := 0 }
  | [['-']] => setStatus 0
  | ['-'] :: rest => modify fun m => { m with arguments := rest, status := 0 }
  | ['-', 'o'] :: name :: rest =>
    match optionLetter? name with
    | some letter => do
      modify fun m => setOption true m letter
      setOptions rest
    | none => fail 2 ("set: Illegal option -o " ++ String.ofList name)
  | ('-' :: c :: letters) :: rest => do
    modify fun m => (c :: letters).foldl (setOption true) m
    setOptions rest
  | ('+' :: c :: letters) :: rest => do
    modify fun m => (c :: letters).foldl (setOption false) m
    setOptions rest
  | rest => modify fun m => { m with arguments := rest, status := 0 }

def nameAndValue (a : Octets) : Octets × Option Octets :=
  let name := a.takeWhile (· != '=')
  match a.drop name.length with
  | _ :: value => (name, some value)
  | [] => (name, none)

def checkName (name : Octets) : Action Unit :=
  if isName name then pure () else fail 2 (String.ofList name ++ ": bad variable name")

def unsetAll (functions : Bool) : List Octets → Action Unit
  | [] => setStatus 0
  | ['-', 'f'] :: rest => unsetAll true rest
  | ['-', 'v'] :: rest => unsetAll false rest
  | name :: rest => do
    checkName name
    if functions then
      modify fun m => { m with functions := m.functions.erase (String.ofList name) }
    else if (← get).isReadOnly name then fail 2 (String.ofList name ++ ": is read only")
    else modify fun m => m.unset name
    unsetAll functions rest

def declareAll (readOnly : Bool) : List Octets → Action Unit
  | [] => setStatus 0
  | ['-', 'p'] :: rest => declareAll readOnly rest
  | a :: rest => do
    let (name, value) := nameAndValue a
    checkName name
    match value with
    | some value => assignVariable name value
    | none => pure ()
    if readOnly then
      modify fun m =>
        let value := (m.value? name).getD []
        { m with bindings := m.bindings.insert ⟨String.ofList name, value, true⟩ }
    declareAll readOnly rest

def localAll : List Octets → Action Unit
  | [] => setStatus 0
  | a :: rest => do
    let (name, value) := nameAndValue a
    checkName name
    let m ← get
    match m.locals with
    | [] => fail 2 "not in a function"
    | frame :: frames =>
      let key := String.ofList name
      set { m with locals := ((key, m.bindings.find? key) :: frame) :: frames }
    match value with
    | some value => assignVariable name value
    | none => pure ()
    localAll rest

def changeDirectory (arguments : List Octets) : Action Unit := do
  let m ← get
  let goesBack := arguments.head? = some ['-']
  let target := match arguments with
    | [] => (m.value? "HOME".toList).getD []
    | a :: _ => if goesBack then (m.value? "OLDPWD".toList).getD [] else a
  let target := if target.isEmpty then ['.'] else target
  let found : Option Route := match m.files.resolve m.here (Octets.toText target) with
    | .ok route => if m.files.node? route = some .directory then some route else none
    | .error _ => none
  match found with
  | none => complain 2 ("cd: can't cd to ".toList ++ target)
  | some route =>
    let old := (m.value? "PWD".toList).getD []
    let new := Octets.ofText ("/" ++ "/".intercalate route)
    set { (({ m with here := route }.assign "OLDPWD".toList old).assign "PWD".toList new) with status := 0 }
    if goesBack then print (new ++ ['\n']) 0

/-! ### Reading lines -/

/-- The octets of a line, each with the knowledge whether a backslash quoted it, and whether its end was
there. -/
def readLine (raw : Bool) : Nat → Machine → List Glyph → List Glyph × Bool × Machine
  | 0, m, read => (read.reverse, false, m)
  | fuel + 1, m, read =>
    match m.readOctet 0 with
    | (none, m) => (read.reverse, false, m)
    | (some '\n', m) => (read.reverse, true, m)
    | (some '\\', m) =>
      if raw then readLine raw fuel m (⟨'\\', false⟩ :: read)
      else
        match m.readOctet 0 with
        | (none, m) => (read.reverse, false, m)
        | (some '\n', m) => readLine raw fuel m read
        | (some c, m) => readLine raw fuel m (⟨c, true⟩ :: read)
    | (some c, m) => if c == '\x00' then readLine raw fuel m read else readLine raw fuel m (⟨c, false⟩ :: read)

def dropBlankSeparators (separators : Octets) (s : List Glyph) : List Glyph :=
  s.dropWhile fun g => !g.quoted && isBlankSeparator separators g.octet

/-- The first field of a line and what is behind the separator that ends it. -/
def firstField (separators : Octets) (s : List Glyph) : List Glyph × List Glyph :=
  let field := s.takeWhile fun g => g.quoted || g.octet ∉ separators
  let rest := dropBlankSeparators separators (s.drop field.length)
  let rest := match rest with
    | g :: more =>
      if !g.quoted && g.octet ∈ separators && !isBlankSeparator separators g.octet then
        dropBlankSeparators separators more
      else rest
    | [] => []
  (field, rest)

/-- What the last of several variables gets: all that is left, without the blanks behind it; a separator
that ends the only field left is dropped. -/
def lastField (separators : Octets) (s : List Glyph) : List Glyph :=
  match firstField separators s with
  | (field, []) => field
  | _ => (dropBlankSeparators separators s.reverse).reverse

def readFields (separators : Octets) : List Octets → List Glyph → Action Unit
  | [], _ => pure ()
  | [name], s => assignVariable name ((lastField separators s).map Glyph.octet)
  | name :: rest, s => do
    let (field, s) := firstField separators s
    assignVariable name (field.map Glyph.octet)
    readFields separators rest s

def readOptions (raw : Bool) : List Octets → Bool × List Octets
  | ['-', 'p'] :: _ :: rest => readOptions raw rest
  | ['-', 'r'] :: rest => readOptions true rest
  | names => (raw, names)

/-- Reads a line into variables; it fails at the end of the input. -/
def readCommand (arguments : List Octets) : Action Unit := do
  let (raw, names) := readOptions false arguments
  if names.isEmpty then complain 2 "read: arg count".toList
  else if !names.all isName then complain 2 "read: bad variable name".toList
  else
    let m ← get
    let bound := match m.channel? 0 with
      | some (_, .file route _ _) => (m.contentOf route).size + 1
      | some (_, .source rest) => rest.length + 1
      | _ => 1
    let (line, ended, m) := readLine raw bound m []
    set m
    let separators := m.separators
    readFields separators names (dropBlankSeparators separators line)
    setStatus (if ended then 0 else 1)

/-! ### Signals -/

/-- The action that waits for a signal, which may be to do nothing. -/
def Machine.trap? (m : Machine) (signal : Nat) : Option Octets := m.traps.lookup signal

def setTraps (action : Option Octets) : List Octets → Action Unit
  | [] => setStatus 0
  | a :: rest =>
    match signalNumber? (String.ofList a) with
    | none => complain 1 ("trap: bad trap: ".toList ++ a)
    | some signal => do
      modify fun m =>
        let traps := m.traps.filter (·.1 ≠ signal)
        { m with traps := match action with
          | some action => (signal, action) :: traps
          | none => traps }
      setTraps action rest

def trapCommand (arguments : List Octets) : Action Unit :=
  match arguments with
  | [] => setStatus 0
  | ['-'] :: signals => setTraps none signals
  | [['-', '-']] => setStatus 0
  | [signal] => setTraps none [signal]
  | action :: signals => setTraps (some action) signals

def signalAndTargets (arguments : List Octets) : Option (Nat × List Octets) :=
  match arguments with
  | ['-', 's'] :: name :: targets => (signalNumber? (String.ofList name)).map (·, targets)
  | ['-', '-'] :: targets => some (15, targets)
  | ('-' :: name) :: targets => (signalNumber? (String.ofList name)).map (·, targets)
  | targets => some (15, targets)

/-! ### The table -/

/-- Built-in commands that run no other command. -/
def builtin? (name : String) (arguments : List Octets) : Option (Action Unit) :=
  match name with
  | ":" => some (setStatus 0)
  | "true" => some (setStatus 0)
  | "false" => some (setStatus 1)
  | "echo" => some (print (echoText arguments) 0)
  | "printf" =>
    some <| match arguments with
      | ['-', '-'] :: format :: arguments => printFormatted format arguments
      | ('-' :: c :: _) :: _ => complain 2 ("printf: Illegal option -".toList ++ [c])
      | format :: arguments => printFormatted format arguments
      | [] => complain 2 "printf: usage: printf format [arg ...]".toList
  | "test" => some <| do
    match condition? (← get) arguments with
    | some x => setStatus (if x then 0 else 1)
    | none => complain 2 "test: unexpected operator".toList
  | "[" => some <| do
    if arguments.getLast? = some [']'] then
      match condition? (← get) arguments.dropLast with
      | some x => setStatus (if x then 0 else 1)
      | none => complain 2 "[: unexpected operator".toList
    else complain 2 "[: missing ]".toList
  | "read" => some (readCommand arguments)
  | "exit" => some (do givenStatus arguments; throw .shell)
  | "return" => some (do givenStatus arguments; throw .function)
  | "break" => some (stopLoops false arguments)
  | "continue" => some (stopLoops true arguments)
  | "shift" => some (shift arguments)
  | "set" => some (setOptions arguments)
  | "unset" => some (unsetAll false arguments)
  | "export" => some (declareAll false arguments)
  | "readonly" => some (declareAll true arguments)
  | "local" => some (localAll arguments)
  | "cd" => some (changeDirectory arguments)
  | "pwd" => some (do print (((← get).value? "PWD".toList).getD [] ++ ['\n']) 0)
  | "trap" => some (trapCommand arguments)
  | "wait" => some (setStatus 0)
  | "hash" => some (setStatus 0)
  | "umask" => some (if arguments.isEmpty then print "0022\n".toList 0 else setStatus 0)
  | _ => none

/-- Built-in commands whose failures end the shell, and whose assignments last. -/
def specialBuiltins : List String :=
  [":", ".", "break", "continue", "eval", "exec", "exit", "export", "readonly", "return", "set", "shift",
    "times", "trap", "unset"]

/-- Built-in commands that run others. -/
def runningBuiltins : List String := ["eval", ".", "exec", "command", "kill"]

def isBuiltin (name : String) : Bool := name ∈ runningBuiltins || (builtin? name []).isSome

end HotSchema.Shell
