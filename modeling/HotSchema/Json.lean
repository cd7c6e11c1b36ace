/-!
# JSON texts

JSON values with the members of an object in the order in which they are written, and their two
layouts: compact, on one line without a blank, and pretty, one member or element a line and two blanks
a level. Strings escape what the format demands and nothing else.
-/

namespace HotSchema

inductive Json where
  | null
  | bool (b : Bool)
  | num (n : Nat)
  | str (s : String)
  | arr (elements : List Json)
  | obj (members : List (String × Json))

namespace Json

def hexDigit (n : Nat) : Char := Nat.digitChar n

/-- Quote, backslash and the controls below U+0020 are escaped; everything else stands for itself. -/
def escape (c : Char) : List Char :=
  match c with
  | '"' => ['\\', '"']
  | '\\' => ['\\', '\\']
  | '\x08' => ['\\', 'b']
  | '\x0c' => ['\\', 'f']
  | '\n' => ['\\', 'n']
  | '\r' => ['\\', 'r']
  | '\t' => ['\\', 't']
  | c =>
    if c.toNat < 0x20 then ['\\', 'u', '0', '0', hexDigit (c.toNat / 16), hexDigit (c.toNat % 16)]
    else [c]

def quote (s : String) : String := String.ofList ('"' :: (s.toList.flatMap escape ++ ['"']))

mutual

def compact : Json → String
  | null => "null"
  | bool b => if b then "true" else "false"
  | num n => toString n
  | str s => quote s
  | arr elements => "[" ++ ",".intercalate (compactElements elements) ++ "]"
  | obj members => "\x7b" ++ ",".intercalate (compactMembers members) ++ "\x7d"

def compactElements : List Json → List String
  | [] => []
  | j :: rest => j.compact :: compactElements rest

def compactMembers : List (String × Json) → List String
  | [] => []
  | (key, j) :: rest => (quote key ++ ":" ++ j.compact) :: compactMembers rest

end

/-- Entries one a line between brackets, `depth` levels in; no entry leaves the brackets empty. -/
def block (opening closing : String) (depth : Nat) (entries : List String) : String :=
  if entries.isEmpty then opening ++ closing
  else
    let indent := "\n" ++ String.ofList (List.replicate (2 * (depth + 1)) ' ')
    let outdent := "\n" ++ String.ofList (List.replicate (2 * depth) ' ')
    opening ++ indent ++ ("," ++ indent).intercalate entries ++ outdent ++ closing

mutual

/-- The indented layout, for a value that stands `depth` levels in. -/
def prettyAt (depth : Nat) : Json → String
  | null => "null"
  | bool b => if b then "true" else "false"
  | num n => toString n
  | str s => quote s
  | arr elements => block "[" "]" depth (prettyElements (depth + 1) elements)
  | obj members => block "\x7b" "\x7d" depth (prettyMembers (depth + 1) members)

def prettyElements (depth : Nat) : List Json → List String
  | [] => []
  | j :: rest => prettyAt depth j :: prettyElements depth rest

def prettyMembers (depth : Nat) : List (String × Json) → List String
  | [] => []
  | (key, j) :: rest => (quote key ++ ": " ++ prettyAt depth j) :: prettyMembers depth rest

end

def pretty (j : Json) : String := prettyAt 0 j

/-! ### Small builders -/

def strings (l : List String) : Json := arr (l.map str)

def ofOption {α : Type} (f : α → Json) : Option α → Json
  | none => null
  | some a => f a

end Json

end HotSchema
