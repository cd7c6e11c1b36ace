import HotSchema.Shell.Builtin
import HotSchema.Shell.Reader
import HotSchema.Text.Split
/-!
# Running commands

Commands run by recursion on a depth: a shell's stack is finite, and a shell that nests deeper than that
is killed. Loops are bounded by the budget of rounds instead.

A command may be under test, as a condition is or the left side of an alternative. A command that fails
and is not under test ends a shell that stops on failure.
-/

namespace HotSchema.Shell

def runText (run : Command → Action Unit) : Nat → Octets → Action Unit
  | 0, _ => pure ()
  | fuel + 1, s =>
    match nextLine s with
    | none => fail 2 "Syntax error"
    | some none => pure ()
    | some (some (c, rest)) => do
      if !(← get).readOnly then run c
      runText run fuel rest

/-! ### Shells within the shell -/

/-- Takes the action that waits for the end of the shell. -/
def runEnd (run : Command → Action Unit) : Action Unit := do
  let m ← get
  match m.trap? 0 with
  | none => pure ()
  | some action => do
    set { m with traps := [] }
    runText run action.length.succ action
    setStatus m.status

/-- Runs an action in a shell of its own, of which only the status, the files and what was read and
written remain. -/
def inSubshell (run : Command → Action Unit) (a : Action Unit) : Action Unit := do
  let m ← get
  set { m with traps := [], locals := [], inLoops := 0 }
  let stop ← attempt a
  match stop with
  | some (.killed signal) => throw (.killed signal)
  | some .budget => throw .budget
  | _ => do
    match ← attempt (runEnd run) with
    | some (.killed signal) => throw (.killed signal)
    | some .budget => throw .budget
    | _ =>
      modify fun s =>
        { m with files := s.files, channels := s.channels, status := s.status, rounds := s.rounds }

/-- What a command writes when it runs in a shell of its own. -/
def outputOf (run : Command → Action Unit) (c : Command) : Action Octets := do
  let before := (← get).channels.length
  let status := (← get).status
  inSubshell run do
    modify fun m => m.openChannel 1 (.stream [])
    run c
  let m ← get
  set { m with channels := m.channels.take before, status, outputStatus := some m.status }
  pure (m.written before)

/-! ### Redirections -/

/-- The descriptor that a path of the system's own names. -/
def descriptorPath? (path : Octets) : Option Nat :=
  match String.ofList path with
  | "/dev/stdin" => some 0
  | "/dev/stdout" => some 1
  | "/dev/stderr" => some 2
  | _ => (Text.dropPrefix? "/dev/fd/".toList path).bind count?

def openFile (m : Machine) (descriptor : Nat) (direction : Direction) (path : Octets) : Option Machine :=
  let name := Octets.toText path
  match descriptorPath? path with
  | some other => m.copyDescriptor descriptor other
  | none =>
    if direction = .input then
      match m.files.resolve m.here name with
      | .error _ => none
      | .ok route =>
        if (m.files.node? route).isSome then some (m.openChannel descriptor (.file route 0 false)) else none
    else
      let keeps := direction = .append || direction = .both
      match m.files.write m.here name ByteArray.empty keeps with
      | .error _ => none
      | .ok files =>
        match files.resolve m.here name with
        | .error _ => none
        | .ok route =>
          let m : Machine := { m with files }
          some (m.openChannel descriptor (.file route 0 (decide (direction = .append))))

/-- Redirects descriptors one after the other; the answer is whether all could be. -/
def redirect (run : Command → Action Unit) : List Redirection → Action Bool
  | [] => pure true
  | .mk descriptor direction target :: rest => do
    let text ← expandText (outputOf run) target
    let m ← get
    let opened : Option Machine :=
      match direction with
      | .document => some (m.openChannel descriptor (.source text))
      | .copy =>
        if text = ['-'] then some (m.close descriptor)
        else (count? text).bind (m.copyDescriptor descriptor)
      | direction => openFile m descriptor direction text
    match opened with
    | some m => do
      set m
      redirect run rest
    | none => do
      complain 2 ("cannot open ".toList ++ text)
      pure false

def restoreDescriptors (before : List (Nat × Nat)) (redirections : List Redirection) (m : Machine) :
    Machine :=
  { m with descriptors := redirections.foldl (fun now (.mk d _ _) =>
      ((before.lookup d).toList.map fun i => (d, i)) ++ now.filter (·.1 ≠ d)) m.descriptors }

/-- Runs an action with descriptors redirected; it does not run if they cannot be. -/
def redirected (run : Command → Action Unit) (redirections : List Redirection) (a : Action Unit) :
    Action Unit := do
  let before := (← get).descriptors
  let good ← redirect run redirections
  let stop ← if good then attempt a else pure none
  modify (restoreDescriptors before redirections)
  match stop with
  | some stop => throw stop
  | none => pure ()

/-! ### Simple commands -/

def assignAll (run : Command → Action Unit) : List (Octets × Word) → Action Unit
  | [] => pure ()
  | (name, word) :: rest => do
    let value ← expandText (outputOf run) word
    assignVariable name value
    assignAll run rest

def receiveSignal (run : Command → Action Unit) (signal : Nat) : Action Unit := do
  let m ← get
  match if signal = 9 || signal = 19 || signal = 0 then none else m.trap? signal with
  | some action => do
    setStatus 0
    runText run action.length.succ action
  | none =>
    match signalEffect signal with
    | .none => setStatus 0
    | .halts => throw .budget
    | .kills => throw (.killed signal)

def kill (run : Command → Action Unit) (arguments : List Octets) : Action Unit :=
  match signalAndTargets arguments with
  | some (signal, [target]) =>
    if target = processNumber.toList then receiveSignal run signal
    else complain 1 "kill: No such process".toList
  | _ => complain 2 "kill: usage: kill [-s sigspec] pid".toList

def maxCalls : Nat := 1000

/-- Calls a function: its arguments and local variables are gone when it ends. -/
def callFunction (run : Command → Action Unit) (f : Function) (arguments : List Octets) :
    Action Unit := do
  let m ← get
  if maxCalls ≤ m.locals.length then
    fail 2 s!"Maximum function recursion depth ({maxCalls}) reached"
  set { m with arguments, locals := [] :: m.locals, inLoops := 0 }
  let stop ← attempt (run f.body)
  modify fun s =>
    let frame := s.locals.head?.getD []
    { frame.foldl Machine.restore s with
      arguments := m.arguments
      locals := m.locals
      inLoops := m.inLoops }
  match stop with
  | some .function => pure ()
  | some stop => throw stop
  | none => pure ()

def notFound (name : Octets) : Action Unit := do
  if '/' ∈ name && ((← get).node? name).isSome then complain 126 (name ++ ": Permission denied".toList)
  else complain 127 (name ++ ": not found".toList)

def runBuiltin (run : Command → Action Unit) (name : Octets) (arguments : List Octets) :
    Action Unit := do
  match String.ofList name with
  | "eval" =>
    let text := joinWith [' '] arguments
    setStatus 0
    runText run text.length.succ text
  | "." =>
    match arguments with
    | [] => setStatus 0
    | path :: _ =>
      let m ← get
      match m.files.read m.here (Octets.toText path) with
      | .error _ => fail 2 (".: " ++ String.ofList path ++ ": not found")
      | .ok content =>
        let text := Octets.ofBytes content
        setStatus 0
        match ← attempt (runText run text.length.succ text) with
        | some .function => pure ()
        | some stop => throw stop
        | none => pure ()
  | "kill" => kill run arguments
  | other =>
    match builtin? other arguments with
    | some a => a
    | none => notFound name

def isReserved (name : Octets) : Bool :=
  String.ofList name ∈ ["!", "\x7b", "case", "for", "if", "until", "while"] ++ closers

def isKnown (m : Machine) (name : Octets) : Bool :=
  isReserved name || isBuiltin (String.ofList name) || m.functions.contains (String.ofList name)

def describeName (m : Machine) (name : Octets) : Octets × Nat :=
  if isReserved name then (name ++ " is a shell keyword\n".toList, 0)
  else if m.functions.contains (String.ofList name) then (name ++ " is a shell function\n".toList, 0)
  else if String.ofList name ∈ specialBuiltins then (name ++ " is a special shell builtin\n".toList, 0)
  else if isBuiltin (String.ofList name) then (name ++ " is a shell builtin\n".toList, 0)
  else (name ++ ": not found\n".toList, 127)

/-- Runs a command without regard to functions, or prints what its name stands for. -/
def runCommandBuiltin (run : Command → Action Unit) (arguments : List Octets) : Action Unit := do
  match arguments with
  | [] => setStatus 0
  | ['-', 'v'] :: name :: _ =>
    if isKnown (← get) name then print (name ++ ['\n']) 0 else setStatus 127
  | ['-', 'V'] :: name :: _ => do
    let (text, status) := describeName (← get) name
    print text status
  | ['-', 'p'] :: name :: rest => runBuiltin run name rest
  | name :: rest => runBuiltin run name rest

/-- The programs that can take the place of a shell. They do what the built-in commands do. -/
def replacingPrograms : List String := ["true", "false", "echo", "printf", "test", "["]

def invoke (run : Command → Action Unit) (name : Octets) (arguments : List Octets) : Action Unit := do
  match (← get).functions.find? (String.ofList name) with
  | some f => callFunction run f arguments
  | none =>
    match String.ofList name with
    | "command" => runCommandBuiltin run arguments
    | "type" =>
      let m ← get
      let described := arguments.map (describeName m)
      print (described.flatMap (·.1)) (if described.all (·.2 = 0) then 0 else 127)
    | "exec" =>
      match arguments with
      | [] => setStatus 0
      | name :: rest => do
        if String.ofList name ∈ replacingPrograms then
          modify fun m => { m with traps := [] }
          runBuiltin run name rest
        else notFound name
        throw .shell
    | _ => runBuiltin run name arguments

def runSimple (run : Command → Action Unit) (assignments : List (Octets × Word)) (words : List Word)
    (redirections : List Redirection) : Action Unit := do
  modify fun m => { m with outputStatus := none }
  let fields ← expandWords (outputOf run) words
  match fields with
  | [] => do
    redirected run redirections do
      assignAll run assignments
      modify fun m => { m with status := m.outputStatus.getD 0 }
  | name :: arguments => do
    let word := String.ofList name
    let isSpecial := word ∈ specialBuiltins && !(← get).functions.contains word
    let before := (← get).descriptors
    let good ← redirect run redirections
    if good then
      let bindings := (← get).bindings
      let stop ← attempt do
        assignAll run assignments
        invoke run name arguments
      if word ≠ "exec" then modify (restoreDescriptors before redirections)
      if !isSpecial then
        modify fun m => assignments.foldl (fun m (assigned, _) =>
          m.restore (String.ofList assigned, bindings.find? (String.ofList assigned))) m
      match stop with
      | some stop => throw stop
      | none => pure ()
    else
      modify (restoreDescriptors before redirections)
      if isSpecial then throw .shell

/-! ### Loops -/

/-- How a round of a loop ended: whether the loop goes on, and the status of the body. -/
abbrev Round := Bool × Nat

/-- Runs a body once. A stop that reaches beyond the loop goes on. -/
def oneRound (body : Action Unit) : Action Round := do
  match ← attempt body with
  | none => pure (true, (← get).status)
  | some (.loops levels again) => do
    setStatus 0
    if levels ≤ 1 then pure (again, 0) else throw (.loops (levels - 1) again)
  | some stop => throw stop

/-- Rounds until one says that it was the last; the status is that of the last body. -/
def rounds (round : Nat → Action Round) : Nat → Nat → Action Unit
  | 0, _ => throw .budget
  | left + 1, status => do
    let m ← get
    if m.rounds = 0 then throw .budget
    set { m with rounds := m.rounds - 1 }
    match ← round status with
    | (true, status) => rounds round left status
    | (false, status) => setStatus status

def roundsOver (name : Octets) (body : Action Unit) : List Octets → Nat → Action Unit
  | [], status => setStatus status
  | value :: rest, _ => do
    assignVariable name value
    match ← oneRound body with
    | (true, status) => roundsOver name body rest status
    | (false, status) => setStatus status

def inLoop (a : Action Unit) : Action Unit := do
  let before := (← get).inLoops
  modify fun m => { m with inLoops := before + 1 }
  let stop ← attempt a
  modify fun m => { m with inLoops := before }
  match stop with
  | some stop => throw stop
  | none => pure ()

def chooseArm (run : Command → Action Unit) (text : Octets) : List Arm → Action (Option Command)
  | [] => pure none
  | .mk patterns body :: rest => do
    if ← anyFits patterns then pure (some body) else chooseArm run text rest
where
  anyFits : List Word → Action Bool
    | [] => pure false
    | p :: more => do
      let glob ← expandPattern (outputOf run) p
      if glob.fits text then pure true else anyFits more

/-! ### Commands -/

/-- Ends a shell that stops on failure after a command that failed and is not under test. -/
def checkFailure (underTest : Bool) : Action Unit := do
  let m ← get
  if m.stopOnFailure && m.status ≠ 0 && !underTest then throw .shell

def run : Nat → Bool → Command → Action Unit
  | 0, _, _ => throw (.killed 11)
  | depth + 1, underTest, c =>
    let again := run depth
    let inner := run depth underTest
    let test (c : Command) : Action Bool := do
      run depth true c
      pure ((← get).status = 0)
    match c with
    | .nothing => pure ()
    | .simple assignments words redirections => do
      runSimple inner assignments words redirections
      checkFailure underTest
    | .redirected c redirections => do
      redirected inner redirections (inner c)
      checkFailure underTest
    | .sequence first next => do
      inner first
      inner next
    | .andThen first next => do if ← test first then inner next
    | .orElse first next => do if !(← test first) then inner next
    | .negated c => do setStatus (if ← test c then 1 else 0)
    | .pipe first next => do
      let i := (← get).channels.length
      let status := (← get).status
      inSubshell inner do
        modify fun m => m.openChannel 1 (.stream [])
        inner first
      let written := (← get).written i
      inSubshell inner do
        modify fun m => { m.openChannel 0 (.source written) with status }
        inner next
      checkFailure underTest
    | .background c => do
      inSubshell inner do
        modify fun m => m.openChannel 0 (.source [])
        inner c
      setStatus 0
    | .subshell c => do
      inSubshell inner (inner c)
      checkFailure underTest
    | .choice condition yes no => do
      if ← test condition then inner yes
      else
        match no with
        | .nothing => setStatus 0
        | no => inner no
    | .loop ending condition body =>
      let round (status : Nat) : Action Round := do
        match ← attempt (again true condition) with
        | none =>
          if ((← get).status = 0) = ending then oneRound (inner body) else pure (false, status)
        | some stop => oneRound (throw stop)
      inLoop do rounds round ((← get).rounds + 1) 0
    | .each name words body => do
      let values ← match words with
        | some words => expandWords (outputOf inner) words
        | none => do pure (← get).arguments
      inLoop (roundsOver name (inner body) values 0)
    | .select word arms => do
      let text ← expandText (outputOf inner) word
      setStatus 0
      match ← chooseArm inner text arms with
      | some body => inner body
      | none => pure ()
    | .function name body => do
      modify fun m =>
        { m with functions := m.functions.insert ⟨String.ofList name, body⟩, status := 0 }

end HotSchema.Shell
