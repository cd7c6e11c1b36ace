import HotSchema.Shell.Arithmetic
import HotSchema.Shell.Machine
/-!
# Conditions

What `test` decides: whether texts are empty or equal, how numbers compare, what a path leads to. A
condition of up to four words is read by the number of its words, a longer one with its signs for
negation, conjunction and alternative. A condition of no known form has no answer.
-/

namespace HotSchema.Shell

/-- The node that a path leads to, an empty path leading nowhere. -/
def Machine.node? (m : Machine) (path : Octets) : Option FileNode :=
  match m.files.resolve m.here (Octets.toText path) with
  | .ok route => m.files.node? route
  | .error _ => none

def conditionOn? (m : Machine) (sign : String) (a : Octets) : Option Bool :=
  let node := m.node? a
  match sign with
  | "-n" => some !a.isEmpty
  | "-z" => some a.isEmpty
  | "-e" => some node.isSome
  | "-f" => some (match node with | some (.file _) => true | _ => false)
  | "-d" => some (node = some .directory)
  | "-s" => some (match node with
    | some (.file content) => content.size != 0
    | some .directory => true
    | _ => false)
  | "-r" => some node.isSome
  | "-w" => some node.isSome
  | "-x" => some (node = some .directory)
  | "-c" => some (node = some .sink)
  | "-O" => some node.isSome
  | "-G" => some node.isSome
  | _ => if sign ∈ ["-b", "-p", "-S", "-L", "-h", "-u", "-g", "-k", "-t"] then some false else none

def conditionSigns : List String :=
  ["=", "!=", "<", ">", "-eq", "-ne", "-gt", "-ge", "-lt", "-le", "-nt", "-ot", "-ef"]

/-- A number in base ten, with blanks around it. -/
def testNumber? (a : Octets) : Option Int :=
  let a := ((a.dropWhile isSpace).reverse.dropWhile isSpace).reverse
  match a with
  | '-' :: digits => (numeralIn? 10 digits).map fun n => -n
  | '+' :: digits => (numeralIn? 10 digits).map fun n => n
  | digits => (numeralIn? 10 digits).map fun n => n

def compareTexts (sign : String) (a b : Octets) : Option Bool :=
  match sign with
  | "=" => some (a = b)
  | "!=" => some (a ≠ b)
  | "<" => some (a < b)
  | ">" => some (b < a)
  | "-nt" => some false
  | "-ot" => some false
  | "-ef" => some (a = b)
  | _ => do
    let x ← testNumber? a
    let y ← testNumber? b
    match sign with
    | "-eq" => some (x = y)
    | "-ne" => some (x ≠ y)
    | "-gt" => some (y < x)
    | "-ge" => some (y ≤ x)
    | "-lt" => some (x < y)
    | "-le" => some (x ≤ y)
    | _ => none

mutual

def orCondition (m : Machine) : Nat → List Octets → Option (Bool × List Octets)
  | 0, _ => none
  | fuel + 1, s => do
    let (a, rest) ← andCondition m fuel s
    match rest with
    | ['-', 'o'] :: rest =>
      let (b, rest) ← orCondition m fuel rest
      some (a || b, rest)
    | rest => some (a, rest)

def andCondition (m : Machine) : Nat → List Octets → Option (Bool × List Octets)
  | 0, _ => none
  | fuel + 1, s => do
    let (a, rest) ← notCondition m fuel s
    match rest with
    | ['-', 'a'] :: rest =>
      let (b, rest) ← andCondition m fuel rest
      some (a && b, rest)
    | rest => some (a, rest)

def notCondition (m : Machine) : Nat → List Octets → Option (Bool × List Octets)
  | 0, _ => none
  | fuel + 1, s =>
    match s with
    | [] => some (false, [])
    | [a] => some (!a.isEmpty, [])
    | a :: sign :: rest =>
      let binary : Option (Bool × List Octets) :=
        match rest with
        | b :: rest =>
          if String.ofList sign ∈ conditionSigns then
            (compareTexts (String.ofList sign) a b).map (·, rest)
          else none
        | [] => none
      if (String.ofList sign ∈ conditionSigns) && !rest.isEmpty then binary
      else if a = ['!'] then (notCondition m fuel (sign :: rest)).map fun (x, rest) => (!x, rest)
      else if a = ['('] then
        match orCondition m fuel (sign :: rest) with
        | some (x, [')'] :: rest) => some (x, rest)
        | _ => none
      else
        match conditionOn? m (String.ofList a) sign with
        | some x => some (x, rest)
        | none => some (!a.isEmpty, sign :: rest)

end

def condition? (m : Machine) (s : List Octets) : Option Bool :=
  match orCondition m (3 * s.length + 3) s with
  | some (x, []) => some x
  | _ => none

end HotSchema.Shell
