import HotSchema.Shell.Syntax
/-!
# Shell arithmetic

Expressions over integers of 64 bits, with the operators of C and their precedence. Names are variables;
an expression may assign them. Arithmetic wraps, division drops the remainder, and a comparison or a
logical operation is one or zero.
-/

namespace HotSchema.Shell

/-- The operators with two operands that are both evaluated. -/
inductive BinaryOp where
  | mul | div | mod | add | sub | shiftLeft | shiftRight
  | less | lessEq | greater | greaterEq | equal | differs | and | xor | or
  deriving DecidableEq

inductive UnaryOp where
  | plus | minus | not | complement
  deriving DecidableEq

inductive Expr where
  | number (n : Int)
  | named (name : Octets)
  | unary (op : UnaryOp) (e : Expr)
  | binary (op : BinaryOp) (a b : Expr)
  | both (a b : Expr)
  | either (a b : Expr)
  | choice (condition yes no : Expr)
  /-- An assignment, of a value that the operator may combine with the old one. -/
  | assign (name : Octets) (op : Option BinaryOp) (e : Expr)

def words : Nat := 0x10000000000000000

def wrap (n : Int) : Int := n.bmod words

def truth (b : Bool) : Int := if b then 1 else 0

def bits (n : Int) : Nat := (n % (words : Int)).toNat

def BinaryOp.apply (op : BinaryOp) (a b : Int) : Option Int :=
  match op with
  | mul => some (wrap (a * b))
  | div => if b = 0 then none else some (wrap (a.tdiv b))
  | mod => if b = 0 then none else some (a.tmod b)
  | add => some (wrap (a + b))
  | sub => some (wrap (a - b))
  | shiftLeft => some (wrap (a * ((1 <<< (bits b % 64) : Nat) : Int)))
  | shiftRight => some (a.fdiv ((1 <<< (bits b % 64) : Nat) : Int))
  | less => some (truth (a < b))
  | lessEq => some (truth (a ≤ b))
  | greater => some (truth (b < a))
  | greaterEq => some (truth (b ≤ a))
  | equal => some (truth (a = b))
  | differs => some (truth (a ≠ b))
  | and => some (wrap ((bits a &&& bits b : Nat) : Int))
  | xor => some (wrap ((bits a ^^^ bits b : Nat) : Int))
  | or => some (wrap ((bits a ||| bits b : Nat) : Int))

def UnaryOp.apply (op : UnaryOp) (a : Int) : Int :=
  match op with
  | plus => a
  | minus => wrap (-a)
  | not => truth (a = 0)
  | complement => -a - 1

/-! ### Numerals -/

def digitValue? (c : Char) : Option Nat :=
  if c.isDigit then some (c.toNat - 48)
  else if c.isAlpha then some (c.toLower.toNat - 87)
  else none

def numeralIn? (base : Nat) (digits : Octets) : Option Nat :=
  if digits.isEmpty then none
  else digits.foldl (fun n c => do
    let n ← n
    let d ← digitValue? c
    if d < base then some (base * n + d) else none) (some 0)

/-- A numeral without a sign: with a leading zero in base eight, with a leading `0x` in base sixteen. -/
def numeral? : Octets → Option Nat
  | ['0'] => some 0
  | '0' :: 'x' :: digits => numeralIn? 16 digits
  | '0' :: 'X' :: digits => numeralIn? 16 digits
  | '0' :: digits => numeralIn? 8 digits
  | digits => numeralIn? 10 digits

def isSpace (c : Char) : Bool := c == ' ' || c == '\t' || c == '\n'

/-- The number that the value of a variable is: a numeral, perhaps with a sign, and nothing is zero. -/
def numberOf? (value : Octets) : Option Int :=
  match ((value.dropWhile isSpace).reverse.dropWhile isSpace).reverse with
  | [] => some 0
  | '-' :: digits => (numeral? digits).map fun n => -n
  | '+' :: digits => (numeral? digits).map fun n => n
  | digits => (numeral? digits).map fun n => n

/-! ### Reading -/

namespace Expr

/-- The signs of the operators between two operands, a longer one before its start, with their
precedence. -/
def binaryOps : List (String × Nat × BinaryOp) :=
  [("<<", 8, .shiftLeft), (">>", 8, .shiftRight), ("<=", 7, .lessEq), (">=", 7, .greaterEq),
    ("==", 6, .equal), ("!=", 6, .differs), ("<", 7, .less), (">", 7, .greater), ("*", 10, .mul),
    ("/", 10, .div), ("%", 10, .mod), ("+", 9, .add), ("-", 9, .sub), ("&", 5, .and), ("^", 4, .xor),
    ("|", 3, .or)]

def skip (s : Octets) : Octets := s.dropWhile isSpace

/-- The operator at the front, which is not the start of another sign. -/
def binaryOp? (s : Octets) : Option (Nat × BinaryOp × Octets) :=
  if "&&".toList.isPrefixOf s || "||".toList.isPrefixOf s then none
  else
    (binaryOps.find? fun (sign, _) => sign.toList.isPrefixOf s).bind fun (sign, level, op) =>
      match s.drop sign.length with
      | '=' :: rest => if level = 6 || level = 7 then some (level, op, '=' :: rest) else none
      | rest => some (level, op, rest)

def assignment? (s : Octets) : Option (Option BinaryOp × Octets) :=
  match s with
  | '=' :: rest => if rest.head? = some '=' then none else some (none, rest)
  | _ =>
    (binaryOps.find? fun (sign, level, _) => level ≠ 6 && level ≠ 7 && (sign ++ "=").toList.isPrefixOf s).map
      fun (sign, _, op) => (some op, s.drop (sign.length + 1))

abbrev Reader := Octets → Option (Expr × Octets)

/-- Reads operators of at least a precedence and their operands behind a first operand. -/
def operators (operand : Reader) (level : Nat) : Nat → Expr → Octets → Option (Expr × Octets)
  | 0, _, _ => none
  | fuel + 1, a, s =>
    match binaryOp? (skip s) with
    | none => some (a, s)
    | some (found, op, rest) =>
      if found < level then some (a, s)
      else do
        let (b, rest) ← operand rest
        let (b, rest) ← operators operand (found + 1) fuel b rest
        operators operand level fuel (.binary op a b) rest

def joined (sign : Octets) (join : Expr → Expr → Expr) (operand : Reader) :
    Nat → Expr → Octets → Option (Expr × Octets)
  | 0, _, _ => none
  | fuel + 1, a, s =>
    if sign.isPrefixOf (skip s) then do
      let (b, rest) ← operand ((skip s).drop sign.length)
      joined sign join operand fuel (join a b) rest
    else some (a, s)

mutual

/-- A number, a variable, an expression between parentheses, or one of these behind signs. -/
def operand : Nat → Reader
  | 0, _ => none
  | fuel + 1, s =>
    let behind (op : UnaryOp) (rest : Octets) : Option (Expr × Octets) :=
      (operand fuel rest).map fun (e, rest) => (.unary op e, rest)
    match skip s with
    | '+' :: rest => behind .plus rest
    | '-' :: rest => behind .minus rest
    | '!' :: rest => behind .not rest
    | '~' :: rest => behind .complement rest
    | '(' :: rest =>
      match whole fuel rest with
      | some (e, rest) =>
        match skip rest with
        | ')' :: rest => some (e, rest)
        | _ => none
      | none => none
    | s =>
      let name := s.takeWhile isNameOctet
      let rest := s.drop name.length
      if isName name then some (.named name, rest)
      else (numeral? name).map fun n => (.number n, rest)

/-- A whole expression: an assignment, or a choice between expressions. -/
def whole : Nat → Reader
  | 0, _ => none
  | fuel + 1, s =>
    let s := skip s
    let name := s.takeWhile isNameOctet
    match if isName name then assignment? (skip (s.drop name.length)) else none with
    | some (op, rest) => (whole fuel rest).map fun (e, rest) => (.assign name op e, rest)
    | none => do
      let ops (s : Octets) : Option (Expr × Octets) := do
        let (a, rest) ← operand fuel s
        operators (operand fuel) 0 s.length.succ a rest
      let ands (s : Octets) : Option (Expr × Octets) := do
        let (a, rest) ← ops s
        joined "&&".toList .both ops s.length.succ a rest
      let (a, rest) ← ands s
      let (a, rest) ← joined "||".toList .either ands s.length.succ a rest
      match skip rest with
      | '?' :: rest =>
        let (yes, rest) ← whole fuel rest
        match skip rest with
        | ':' :: rest =>
          let (no, rest) ← whole fuel rest
          some (.choice a yes no, rest)
        | _ => none
      | _ => some (a, rest)

end

def ofText? (s : Octets) : Option Expr :=
  match whole s.length.succ s with
  | some (e, rest) => if (skip rest).isEmpty then some e else none
  | none => none

/-! ### Values -/

/-- Values that an expression gave to variables, the latest first. -/
abbrev Assigned := List (Octets × Int)

/-- The value of an expression and the assignments it made, over the values of the variables; there is
none if a value is no number or a divisor is zero. -/
def eval (valueOf : Octets → Option Int) : Expr → Assigned → Option (Int × Assigned)
  | number n, env => some (wrap n, env)
  | named name, env => ((env.lookup name).or (valueOf name)).map (·, env)
  | unary op e, env => (eval valueOf e env).map fun (n, env) => (op.apply n, env)
  | binary op a b, env => do
    let (x, env) ← eval valueOf a env
    let (y, env) ← eval valueOf b env
    (op.apply x y).map (·, env)
  | both a b, env => do
    let (x, env) ← eval valueOf a env
    if x = 0 then some (0, env)
    else
      let (y, env) ← eval valueOf b env
      some (truth (y ≠ 0), env)
  | either a b, env => do
    let (x, env) ← eval valueOf a env
    if x ≠ 0 then some (1, env)
    else
      let (y, env) ← eval valueOf b env
      some (truth (y ≠ 0), env)
  | choice c yes no, env => do
    let (x, env) ← eval valueOf c env
    if x ≠ 0 then eval valueOf yes env else eval valueOf no env
  | assign name op e, env => do
    let (y, env) ← eval valueOf e env
    let value ← match op with
      | none => some y
      | some op => ((env.lookup name).or (valueOf name)).bind fun x => op.apply x y
    some (value, (name, value) :: env)

end Expr

end HotSchema.Shell
