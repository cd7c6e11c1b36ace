import HotSchema.Text.Octets
/-!
# Shell patterns

A pattern fits a row of octets: a star any octets, a question mark any one octet, a bracket expression
one of those that it lists, and every other octet itself. An octet between quotes stands for itself
always, and so does one after a backslash.
-/

namespace HotSchema.Shell

/-- An octet, and whether it stands between quotes. -/
structure Glyph where
  octet : Char
  quoted : Bool
  deriving DecidableEq

inductive Range where
  | between (low high : Char)
  | named (name : Octets)
  deriving DecidableEq

inductive GlobPart where
  | itself (octet : Char)
  | any
  /-- Any octets. -/
  | many
  | oneOf (negated : Bool) (ranges : List Range)
  deriving DecidableEq

abbrev Glob := List GlobPart

def isPunctuation (c : Char) : Bool :=
  0x20 < c.toNat && c.toNat < 0x7F && !c.isAlphanum

def inClass (name : Octets) (c : Char) : Bool :=
  match String.ofList name with
  | "alpha" => c.isAlpha
  | "digit" => c.isDigit
  | "alnum" => c.isAlphanum
  | "upper" => c.isUpper
  | "lower" => c.isLower
  | "space" => c == ' ' || (9 ≤ c.toNat && c.toNat ≤ 13)
  | "blank" => c == ' ' || c == '\t'
  | "punct" => isPunctuation c
  | "print" => 0x20 ≤ c.toNat && c.toNat < 0x7F
  | "graph" => 0x20 < c.toNat && c.toNat < 0x7F
  | "cntrl" => c.toNat < 0x20 || c.toNat == 0x7F
  | "xdigit" => c.isDigit || ('a' ≤ c.toLower && c.toLower ≤ 'f')
  | _ => false

def Range.has (r : Range) (c : Char) : Bool :=
  match r with
  | between low high => low ≤ c && c ≤ high
  | named name => inClass name c

def suffixes {α : Type} : List α → List (List α)
  | [] => [[]]
  | a :: s => (a :: s) :: suffixes s

namespace Glob

def fits : Glob → Octets → Bool
  | [], s => s.isEmpty
  | .many :: p, s => (suffixes s).any fun rest => fits p rest
  | .any :: p, s =>
    match s with
    | [] => false
    | _ :: s => fits p s
  | .itself x :: p, s =>
    match s with
    | [] => false
    | c :: s => x == c && fits p s
  | .oneOf negated ranges :: p, s =>
    match s with
    | [] => false
    | c :: s => ranges.any (·.has c) != negated && fits p s

def className? (s : List Glyph) : Option (Octets × List Glyph) :=
  let name := s.takeWhile (·.octet != ':')
  match s.drop name.length with
  | _ :: ⟨']', false⟩ :: rest => some (name.map Glyph.octet, rest)
  | _ => none

/-- The entries of a bracket expression up to its end; a bracket that comes first is an entry. -/
def ranges? (fuel : Nat) (first : Bool) (s : List Glyph) : Option (List Range × List Glyph) :=
  match fuel, s with
  | 0, _ | _, [] => none
  | fuel + 1, ⟨c, quoted⟩ :: rest =>
    if c == ']' && !quoted && !first then some ([], rest)
    else
      let entry : Option (Range × List Glyph) :=
        match c, quoted, rest with
        | '[', false, ⟨':', false⟩ :: more => (className? more).map fun (name, more) => (.named name, more)
        | _, _, ⟨'-', false⟩ :: ⟨high, highQuoted⟩ :: more =>
          if high == ']' && !highQuoted then none else some (.between c high, more)
        | _, _, _ => none
      let (range, rest) := entry.getD (.between c c, rest)
      (ranges? fuel false rest).map fun (ranges, rest) => (range :: ranges, rest)

def bracket? (s : List Glyph) : Option (GlobPart × List Glyph) :=
  let (negated, s) := match s with
    | ⟨'!', false⟩ :: rest => (true, rest)
    | ⟨'^', false⟩ :: rest => (true, rest)
    | _ => (false, s)
  (ranges? s.length true s).map fun (ranges, rest) => (.oneOf negated ranges, rest)

/-- Reads a pattern; `fuel` is at least its length. -/
def read : Nat → List Glyph → Glob
  | 0, _ | _, [] => []
  | fuel + 1, ⟨c, quoted⟩ :: rest =>
    if quoted then .itself c :: read fuel rest
    else
      match c with
      | '*' => .many :: read fuel rest
      | '?' => .any :: read fuel rest
      | '[' =>
        match bracket? rest with
        | some (part, rest) => part :: read fuel rest
        | none => .itself c :: read fuel rest
      | '\\' =>
        match rest with
        | next :: rest => .itself next.octet :: read fuel rest
        | [] => [.itself c]
      | _ => .itself c :: read fuel rest

def ofGlyphs (s : List Glyph) : Glob := read s.length s

/-- Whether a pattern fits more than one text. -/
def isOpen (p : Glob) : Bool :=
  p.any fun part =>
    match part with
    | .itself _ => false
    | _ => true

end Glob

end HotSchema.Shell
