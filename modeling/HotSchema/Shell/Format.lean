import HotSchema.Shell.Arithmetic
/-!
# Formatted output

What `echo` and `printf` print. Both know escapes behind a backslash; in the arguments of `echo` and of
a `%b` conversion, the escape `\c` ends all output. A format of `printf` is used again as long as it
takes arguments and there are any left.
-/

namespace HotSchema.Shell

def isOctal (c : Char) : Bool := '0' ≤ c && c ≤ '7'

/-- Octets that an escape stands for, behind its backslash; without a known sign it is the backslash. -/
def escapeOf (s : Octets) : Char × Octets :=
  match s with
  | '\\' :: s => ('\\', s)
  | 'a' :: s => ('\x07', s)
  | 'b' :: s => ('\x08', s)
  | 'e' :: s => ('\x1b', s)
  | 'f' :: s => ('\x0c', s)
  | 'n' :: s => ('\n', s)
  | 'r' :: s => ('\r', s)
  | 't' :: s => ('\t', s)
  | 'v' :: s => ('\x0b', s)
  | s =>
    let digits := (s.take 3).takeWhile isOctal
    if digits.isEmpty then ('\\', s)
    else
      let n := digits.foldl (fun n c => 8 * n + (c.toNat - 48)) 0
      (Char.ofNat (n % 256), s.drop digits.length)

/-- The octets of an argument, whose octal escapes may begin with a zero, and whether `\c` ended it. -/
def unescape : Nat → Octets → Octets × Bool
  | 0, s => (s, false)
  | _, [] => ([], false)
  | fuel + 1, '\\' :: s =>
    match s with
    | 'c' :: _ => ([], true)
    | s =>
      let s := match s with
        | '0' :: d :: rest => if isOctal d then d :: rest else s
        | s => s
      let (c, rest) := escapeOf s
      let (octets, ended) := unescape fuel rest
      (c :: octets, ended)
  | fuel + 1, c :: s =>
    let (octets, ended) := unescape fuel s
    (c :: octets, ended)

def echoText (arguments : List Octets) : Octets :=
  let (lineEnd, arguments) := match arguments with
    | ['-', 'n'] :: rest => ([], rest)
    | arguments => (['\n'], arguments)
  let rec join : List Octets → Octets
    | [] => lineEnd
    | a :: rest =>
      let (octets, ended) := unescape a.length a
      if ended then octets
      else octets ++ (if rest.isEmpty then [] else [' ']) ++ join rest
  join arguments

/-! ### Formats -/

/-- How a conversion is set: its flags, its least width, and its precision. -/
structure Conversion where
  left : Bool
  plus : Bool
  blank : Bool
  zeros : Bool
  alternate : Bool
  width : Nat
  precision : Option Nat

/-- Fills a text up to the width; zeros go behind the sign and what else leads the digits. -/
def Conversion.fill (o : Conversion) (lead body : Octets) (mayZero : Bool) : Octets :=
  let missing := o.width - (lead.length + body.length)
  if o.left then lead ++ body ++ List.replicate missing ' '
  else if o.zeros && mayZero then lead ++ List.replicate missing '0' ++ body
  else List.replicate missing ' ' ++ lead ++ body

/-- At least as many digits as the precision says; none for zero at precision zero. -/
def Conversion.digits (o : Conversion) (base : Nat) (n : Nat) : Octets :=
  let digits := Nat.toDigits base n
  match o.precision with
  | none => digits
  | some p => if p = 0 && n = 0 then [] else List.replicate (p - digits.length) '0' ++ digits

def Conversion.signed (o : Conversion) (n : Int) : Octets :=
  let lead := if n < 0 then ['-'] else if o.plus then ['+'] else if o.blank then [' '] else []
  o.fill lead (o.digits 10 n.natAbs) o.precision.isNone

def Conversion.unsigned (o : Conversion) (base : Nat) (capital : Bool) (n : Int) : Octets :=
  let value := bits n
  let digits := o.digits base value
  let lead : Octets :=
    if o.alternate && value ≠ 0 then
      if base = 16 then ['0', if capital then 'X' else 'x'] else if base = 8 then ['0'] else []
    else []
  o.fill lead (if capital then digits.map Char.toUpper else digits) o.precision.isNone

inductive NumberFault where
  | notNumeric
  | partlyNumeric
  | outOfRange
  deriving DecidableEq

def NumberFault.message : NumberFault → String
  | notNumeric => "expected numeric value"
  | partlyNumeric => "not completely converted"
  | outOfRange => "Numerical result out of range"

/-- The number that an argument is: a numeral with an optional sign, or an octet behind a quote. A
numeral at the front counts if more stands behind it, and a number out of range is moved into it. -/
def argumentNumber (a : Octets) : Int × Option NumberFault :=
  match a with
  | [] => (0, none)
  | '"' :: c :: _ => (c.toNat, none)
  | '\'' :: c :: _ => (c.toNat, none)
  | _ =>
    match numberOf? a with
    | some n =>
      let most : Int := 0x7FFFFFFFFFFFFFFF
      if n < -most - 1 then (-most - 1, some .outOfRange)
      else if most < n then (most, some .outOfRange)
      else (n, none)
    | none =>
      let a := a.dropWhile isSpace
      let (negative, digits) := match a with
        | '-' :: d => (true, d)
        | '+' :: d => (false, d)
        | d => (false, d)
      match numeralIn? 10 (digits.takeWhile Char.isDigit) with
      | some n => (if negative then -n else n, some .partlyNumeric)
      | none => (0, some .notNumeric)

structure Printed where
  /-- The octets, the latest first. -/
  output : Octets
  arguments : List Octets
  /-- An argument was taken. -/
  took : Bool
  /-- All output is over. -/
  ended : Bool
  status : Nat
  faults : List (Octets × String)

namespace Printed

def put (p : Printed) (octets : Octets) : Printed := { p with output := octets.reverse ++ p.output }

def next (p : Printed) : Octets × Printed :=
  match p.arguments with
  | [] => ([], { p with took := true })
  | a :: rest => (a, { p with arguments := rest, took := true })

/-- A width or precision: a numeral, or a star that takes an argument. -/
def count (p : Printed) (s : Octets) : Option Nat × Bool × Octets × Printed :=
  match s with
  | '*' :: s =>
    let (a, p) := p.next
    let (n, _) := argumentNumber a
    (some n.natAbs, n < 0, s, p)
  | s =>
    let digits := s.takeWhile Char.isDigit
    ((if digits.isEmpty then none else numeralIn? 10 digits), false, s.drop digits.length, p)

def conversion (p : Printed) (s : Octets) : Printed × Octets :=
  let flags := s.takeWhile (· ∈ "#-+ 0".toList)
  let (width, toLeft, s, p) := p.count (s.drop flags.length)
  let (precision, s, p) := match s with
    | '.' :: s =>
      let (n, negative, s, p) := p.count s
      (if negative then none else some (n.getD 0), s, p)
    | s => (none, s, p)
  let o : Conversion :=
    ⟨toLeft || '-' ∈ flags, '+' ∈ flags, ' ' ∈ flags, '0' ∈ flags, '#' ∈ flags, width.getD 0, precision⟩
  let cut (octets : Octets) : Octets := match precision with
    | some n => octets.take n
    | none => octets
  let number (p : Printed) (f : Int → Octets) : Printed :=
    let (a, p) := p.next
    match argumentNumber a with
    | (n, none) => p.put (f n)
    | (n, some fault) =>
      { p.put (f n) with status := 1, faults := (a, fault.message) :: p.faults }
  match s with
  | 's' :: s =>
    let (a, p) := p.next
    (p.put (o.fill [] (cut a) false), s)
  | 'b' :: s =>
    let (a, p) := p.next
    let (octets, ended) := unescape a.length a
    ({ p.put (o.fill [] (cut octets) false) with ended }, s)
  | 'c' :: s =>
    let (a, p) := p.next
    (p.put (o.fill [] [a.headD '\x00'] false), s)
  | 'd' :: s => (number p o.signed, s)
  | 'i' :: s => (number p o.signed, s)
  | 'u' :: s => (number p (o.unsigned 10 false), s)
  | 'o' :: s => (number p (o.unsigned 8 false), s)
  | 'x' :: s => (number p (o.unsigned 16 false), s)
  | 'X' :: s => (number p (o.unsigned 16 true), s)
  | s =>
    ({ p with ended := true, status := 2, faults := ('%' :: s.take 1, "invalid directive") :: p.faults },
      [])

def pass : Nat → Octets → Printed → Printed
  | 0, _, p => p
  | _, [], p => p
  | fuel + 1, c :: s, p =>
    if p.ended then p
    else
      match c, s with
      | '%', '%' :: s => pass fuel s (p.put ['%'])
      | '%', s =>
        let (p, s) := p.conversion s
        pass fuel s p
      | '\\', s =>
        let (octet, s) := escapeOf s
        pass fuel s (p.put [octet])
      | c, s => pass fuel s (p.put [c])

/-- Passes as long as they take arguments and there are any. -/
def passes (format : Octets) : Nat → Printed → Printed
  | 0, p => p
  | fuel + 1, p =>
    let p := pass format.length format { p with took := false }
    if p.took && !p.ended && !p.arguments.isEmpty then passes format fuel p else p

end Printed

def printfText (format : Octets) (arguments : List Octets) : Printed :=
  Printed.passes format (arguments.length + 1) ⟨[], arguments, false, false, 0, []⟩

end HotSchema.Shell
