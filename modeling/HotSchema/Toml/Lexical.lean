import HotSchema.Text.Split
/-!
# Words of TOML

Blanks, line ends and comments; strings in their four notations; integers; and keys. Each reader takes
the text from where it stands and gives back what it read and the text behind it, or nothing where the
text has no such word.

Strings come in two kinds, each on one line or on several. Between double quotes a backslash escapes;
between single quotes every character stands for itself. A string over several lines drops a line end
right after its opening quotes, and may end in up to two quotes more than those that close it.
-/

namespace HotSchema.Toml

/-- What a reader gives: a thing read and the text behind it. -/
abbrev Read (α : Type) := Option (α × List Char)

/-- The characters that may stand in a comment or, for themselves, in a string: no control but the
tab. -/
def isPlain (c : Char) : Bool := c == '\t' || (0x20 ≤ c.toNat && c.toNat != 0x7F)

def isBlank (c : Char) : Bool := c == ' ' || c == '\t'

def skipBlanks (s : List Char) : List Char := s.dropWhile isBlank

def lineEnd? : List Char → Option (List Char)
  | '\n' :: s => some s
  | '\r' :: '\n' :: s => some s
  | _ => none

def skipComment : List Char → List Char
  | '#' :: s => s.dropWhile isPlain
  | s => s

def skipTrivia : Nat → List Char → List Char
  | 0, s => s
  | fuel + 1, s =>
    let s := skipComment (skipBlanks s)
    match lineEnd? s with
    | some rest => skipTrivia fuel rest
    | none => s

def skipAll (s : List Char) : List Char := skipTrivia s.length s

/-! ### Strings -/

def hexValue? (c : Char) : Option Nat :=
  if c.isDigit then some (c.toNat - 48)
  else if 'a' ≤ c && c ≤ 'f' then some (c.toNat - 87)
  else if 'A' ≤ c && c ≤ 'F' then some (c.toNat - 55)
  else none

def numeral? (base : Nat) (digits : List Char) : Option Nat :=
  digits.foldl (fun n c => do
    let n ← n
    let d ← hexValue? c
    if d < base then some (base * n + d) else none) (some 0)

/-- The character of a number, which may not be a surrogate. -/
def scalar? (n : Nat) : Option Char :=
  if n < 0xD800 || (0xDFFF < n && n < 0x110000) then some (Char.ofNat n) else none

/-- A character by the number that the next `count` digits of base sixteen give. -/
def numberedChar (count : Nat) (s : List Char) : Read Char :=
  let digits := s.take count
  if digits.length = count then
    ((numeral? 16 digits).bind scalar?).map (·, s.drop count)
  else none

def escaped : List Char → Read Char
  | 'b' :: s => some ('\x08', s)
  | 't' :: s => some ('\t', s)
  | 'n' :: s => some ('\n', s)
  | 'f' :: s => some ('\x0c', s)
  | 'r' :: s => some ('\r', s)
  | 'e' :: s => some ('\x1b', s)
  | '"' :: s => some ('"', s)
  | '\\' :: s => some ('\\', s)
  | 'x' :: s => numberedChar 2 s
  | 'u' :: s => numberedChar 4 s
  | 'U' :: s => numberedChar 8 s
  | _ => none

/-- The rest of a string on one line that may escape; `read` holds its characters backwards. -/
def basicFrom : Nat → List Char → List Char → Read String
  | 0, _, _ => none
  | fuel + 1, read, s =>
    match s with
    | '"' :: s => some (String.ofList read.reverse, s)
    | '\\' :: s => (escaped s).bind fun (c, s) => basicFrom fuel (c :: read) s
    | c :: s => if isPlain c then basicFrom fuel (c :: read) s else none
    | [] => none

def literalFrom : List Char → List Char → Read String
  | _, [] => none
  | read, c :: s =>
    if c = '\'' then some (String.ofList read.reverse, s)
    else if isPlain c then literalFrom (c :: read) s
    else none

/-- The closing quotes of a string over several lines: how many quotes before them belong to the
string, and the text behind them. -/
def closing? (quote : Char) (s : List Char) : Option (Nat × List Char) :=
  let count := (s.takeWhile (· == quote)).length
  if count < 3 then none else some (min (count - 3) 2, s.drop (min count 5))

/-- Skips what an escaped line end swallows: the rest of the line, which must be blank, and every blank
and line end after it. -/
def skipEscapedLineEnd (s : List Char) : Option (List Char) :=
  (lineEnd? (skipBlanks s)).map fun s => skipSpaces s.length s
where
  skipSpaces : Nat → List Char → List Char
    | 0, s => s
    | fuel + 1, s =>
      let s := skipBlanks s
      match lineEnd? s with
      | some rest => skipSpaces fuel rest
      | none => s

/-- The rest of a string over several lines; backslashes escape if `escapes` is set. -/
def multilineFrom (quote : Char) (escapes : Bool) : Nat → List Char → List Char → Read String
  | 0, _, _ => none
  | fuel + 1, read, s =>
    match closing? quote s with
    | some (more, rest) => some (String.ofList (read.reverse ++ List.replicate more quote), rest)
    | none =>
      match s with
      | [] => none
      | '\r' :: '\n' :: s => multilineFrom quote escapes fuel ('\n' :: '\r' :: read) s
      | '\n' :: s => multilineFrom quote escapes fuel ('\n' :: read) s
      | c :: s =>
        if escapes && c = '\\' then
          if (s.head?.map fun c => isBlank c || c == '\r' || c == '\n').getD false then
            (skipEscapedLineEnd s).bind fun s => multilineFrom quote escapes fuel read s
          else (escaped s).bind fun (c, s) => multilineFrom quote escapes fuel (c :: read) s
        else if isPlain c then multilineFrom quote escapes fuel (c :: read) s
        else none

def multiline (quote : Char) (escapes : Bool) (s : List Char) : Read String :=
  let s := (lineEnd? s).getD s
  multilineFrom quote escapes (s.length + 1) [] s

def lineString : List Char → Read String
  | '"' :: s => basicFrom (s.length + 1) [] s
  | '\'' :: s => literalFrom [] s
  | _ => none

def anyString : List Char → Read String
  | '"' :: '"' :: '"' :: s => multiline '"' true s
  | '\'' :: '\'' :: '\'' :: s => multiline '\'' false s
  | s => lineString s

/-! ### Integers -/

/-- The digits of a numeral, which single low lines may set apart. -/
def digitsOf? (s : List Char) : Option (List Char) :=
  let groups := Text.segments (· == '_') s
  if groups.all (!·.isEmpty) then some groups.flatten else none

def decimal? (s : List Char) : Option Nat :=
  (digitsOf? s).bind fun digits =>
    if 1 < digits.length && digits.head? = some '0' then none else numeral? 10 digits

/-- An integer: decimal, perhaps with a sign, or in base sixteen, eight or two without one. -/
def integer? : List Char → Option Int
  | '0' :: 'x' :: s => ((digitsOf? s).bind (numeral? 16)).map Int.ofNat
  | '0' :: 'o' :: s => ((digitsOf? s).bind (numeral? 8)).map Int.ofNat
  | '0' :: 'b' :: s => ((digitsOf? s).bind (numeral? 2)).map Int.ofNat
  | '+' :: s => (decimal? s).map Int.ofNat
  | '-' :: s => (decimal? s).map fun n => -(n : Int)
  | s => (decimal? s).map Int.ofNat

def isBareChar (c : Char) : Bool := c.isAlphanum || c == '_' || c == '-'

def integer (s : List Char) : Read Int :=
  let inWord (c : Char) : Bool := isBareChar c || c == '+' || c == '.' || c == ':'
  (integer? (s.takeWhile inWord)).map (·, s.dropWhile inWord)

/-! ### Keys -/

def simpleKey (s : List Char) : Read String :=
  match s with
  | c :: _ =>
    if isBareChar c then some (String.ofList (s.takeWhile isBareChar), s.dropWhile isBareChar)
    else lineString s
  | [] => none

def keyFrom : Nat → List Char → Read (List String)
  | 0, _ => none
  | fuel + 1, s =>
    (simpleKey (skipBlanks s)).bind fun (key, s) =>
      match skipBlanks s with
      | '.' :: s => (keyFrom fuel s).map fun (keys, s) => (key :: keys, s)
      | s => some ([key], s)

def key (s : List Char) : Read (List String) := keyFrom (s.length + 1) s

end HotSchema.Toml
