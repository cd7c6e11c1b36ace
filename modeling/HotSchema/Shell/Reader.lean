import HotSchema.Shell.Syntax
/-!
# Reading shell text

A shell reads its text command by command and runs each before it reads on, so that a mistake in the
text shows only when the reading comes to it. Words end at blanks and signs that stand outside quotes;
reserved words count where a command may begin.

All readers take the text from where they stand and give back what they read and the text behind it,
or nothing where the text is not of their form. The first argument bounds the depth of the recursion;
a small multiple of the length of the text is enough.
-/

namespace HotSchema.Shell

abbrev Reader (α : Type) := Octets → Option (α × Octets)

def endsWord (c : Char) : Bool := c ∈ " \t\n;&|<>()".toList

/-- Skips blanks, line ends after a backslash, and a comment. -/
def skipBlanks : Octets → Octets
  | [] => []
  | '\\' :: '\n' :: s => skipBlanks s
  | c :: s =>
    if c == ' ' || c == '\t' then skipBlanks s
    else if c == '#' then s.dropWhile (· != '\n')
    else c :: s

def skipLinesFrom : Nat → Octets → Octets
  | 0, s => s
  | fuel + 1, s =>
    match skipBlanks s with
    | '\n' :: rest => skipLinesFrom fuel rest
    | s => s

def skipLines (s : Octets) : Octets := skipLinesFrom s.length s

/-- A word without any sign of quoting or expansion. -/
def plainWord? (s : Octets) : Option (Octets × Octets) :=
  let word := s.takeWhile fun c => !endsWord c && !(c ∈ "'\"\\$`".toList)
  let rest := s.drop word.length
  if word.isEmpty || !(rest.head?.all endsWord) then none else some (word, rest)

def expect? (word : String) (s : Octets) : Option Octets :=
  match plainWord? (skipLines s) with
  | some (w, rest) => if w = word.toList then some rest else none
  | none => none

/-- The words at which a list of commands ends. -/
def closers : List String := ["then", "else", "elif", "fi", "do", "done", "esac", "\x7d"]

def atEnd (s : Octets) : Bool :=
  match s with
  | [] => true
  | ')' :: _ => true
  | ';' :: ';' :: _ => true
  | s => (plainWord? s).any fun (word, _) => String.ofList word ∈ closers

/-- Where a row of pieces stands, which decides what quotes and where the row ends. -/
inductive Setting where
  | bare
  | quotes
  /-- Between the braces of a parameter, inside quotes or not. -/
  | braces (quoted : Bool)
  | document
  deriving DecidableEq

namespace Setting

/-- Quotes within it have no effect on what stands in it. -/
def isQuoted : Setting → Bool
  | bare => false
  | braces quoted => quoted
  | _ => true

/-- The octets that a backslash quotes; elsewhere it stands for itself. -/
def escapes (s : Setting) (c : Char) : Bool :=
  match s with
  | bare => true
  | braces false => true
  | quotes => c ∈ "$`\"\\".toList
  | braces true => c ∈ "$`\"\\\x7d".toList
  | document => c ∈ "$`\\".toList

end Setting

/-- Puts an octet behind pieces that stand backwards. -/
def pushOctet (c : Char) : List Piece → List Piece
  | .text octets :: rest => .text (octets ++ [c]) :: rest
  | rest => .text [c] :: rest

/-- The text between backquotes, where a backslash before some octets is dropped. -/
def backquoted (escapes : Octets) : Octets → Octets → Option (Octets × Octets)
  | _, [] => none
  | read, '`' :: s => some (read.reverse, s)
  | read, '\\' :: c :: s =>
    if c ∈ escapes then backquoted escapes (c :: read) s else backquoted escapes (c :: '\\' :: read) s
  | read, c :: s => backquoted escapes (c :: read) s

def shortParameter? (s : Octets) : Option (Octets × Octets) :=
  match s with
  | [] => none
  | c :: rest =>
    if c.isDigit || c ∈ "@*#?-$!".toList then some ([c], rest)
    else
      let name := s.takeWhile isNameOctet
      if name.isEmpty then none else some (name, s.drop name.length)

/-- The name of a parameter between braces, where a number may have several digits. -/
def parameter? (s : Octets) : Option (Octets × Octets) :=
  let digits := s.takeWhile Char.isDigit
  if digits.isEmpty then shortParameter? s else some (digits, s.drop digits.length)

def substitution? (s : Octets) : Option (Substitution × Octets) :=
  match s with
  | ':' :: '-' :: s => some (.orElse true, s)
  | ':' :: '=' :: s => some (.assign true, s)
  | ':' :: '?' :: s => some (.demand true, s)
  | ':' :: '+' :: s => some (.instead true, s)
  | '-' :: s => some (.orElse false, s)
  | '=' :: s => some (.assign false, s)
  | '?' :: s => some (.demand false, s)
  | '+' :: s => some (.instead false, s)
  | '#' :: '#' :: s => some (.cutStart true, s)
  | '#' :: s => some (.cutStart false, s)
  | '%' :: '%' :: s => some (.cutEnd true, s)
  | '%' :: s => some (.cutEnd false, s)
  | _ => none

/-- Where the word of a substitution stands; a pattern quotes by itself. -/
def wordSetting (outer : Setting) : Substitution → Setting
  | .cutStart _ | .cutEnd _ => .braces false
  | _ => .braces outer.isQuoted

/-- The signs of a redirection, with the descriptor that it leads if none is given. -/
def direction? (s : Octets) : Option (Direction × Nat × Octets) :=
  match s with
  | '>' :: '>' :: s => some (.append, 1, s)
  | '>' :: '&' :: s => some (.copy, 1, s)
  | '>' :: '|' :: s => some (.output, 1, s)
  | '>' :: s => some (.output, 1, s)
  | '<' :: '<' :: s => some (.document, 0, s)
  | '<' :: '&' :: s => some (.copy, 0, s)
  | '<' :: '>' :: s => some (.both, 0, s)
  | '<' :: s => some (.input, 0, s)
  | _ => none

def redirection? (s : Octets) : Option (Nat × Direction × Octets) :=
  let digits := s.takeWhile Char.isDigit
  (direction? (s.drop digits.length)).map fun (direction, usual, rest) =>
    let given := digits.foldl (fun n c => 10 * n + (c.toNat - 48)) 0
    (if digits.isEmpty then usual else given, direction, rest)

def assignment? (s : Octets) : Option (Octets × Octets) :=
  let name := s.takeWhile isNameOctet
  match s.drop name.length with
  | '=' :: rest => if isName name then some (name, rest) else none
  | _ => none

/-- The text of a word that ends a document, and whether any of it is quoted. -/
def delimiterOf : List Piece → Octets × Bool
  | [] => ([], false)
  | .text octets :: rest => (octets ++ (delimiterOf rest).1, (delimiterOf rest).2)
  | .quoted pieces :: rest => ((delimiterOf pieces).1 ++ (delimiterOf rest).1, true)
  | _ :: rest => delimiterOf rest

/-- Lines up to one that is the delimiter, and the text behind that line. -/
def documentLines (delimiter : Octets) (stripTabs : Bool) : Nat → Octets → Octets × Octets
  | 0, s => ([], s)
  | _, [] => ([], [])
  | fuel + 1, s =>
    let line := s.takeWhile (· != '\n')
    let rest := s.drop (line.length + 1)
    let line := if stripTabs then line.dropWhile (· == '\t') else line
    if line = delimiter then ([], rest)
    else
      let (body, rest) := documentLines delimiter stripTabs fuel rest
      (line ++ '\n' :: body, rest)

mutual

/-- Pieces up to where the setting ends; those read so far stand backwards. -/
def pieces : Nat → Setting → List Piece → Reader (List Piece)
  | 0, _, _, _ => none
  | _, .bare, read, [] => some (read.reverse, [])
  | _, .document, read, [] => some (read.reverse, [])
  | _, _, _, [] => none
  | fuel + 1, setting, read, c :: s =>
    if setting = .bare && endsWord c then some (read.reverse, c :: s)
    else if setting = .quotes && c == '"' then some (read.reverse, s)
    else if (setting = .braces true || setting = .braces false) && c == '\x7d' then
      some (read.reverse, s)
    else if c == '\\' then
      match s with
      | [] => pieces fuel setting (.quoted [.text ['\\']] :: read) []
      | '\n' :: s => pieces fuel setting read s
      | e :: s =>
        if setting.escapes e then pieces fuel setting (.quoted [.text [e]] :: read) s
        else pieces fuel setting (pushOctet e (pushOctet c read)) s
    else if c == '\'' && !setting.isQuoted then
      let text := s.takeWhile (· != '\'')
      match s.drop text.length with
      | _ :: s => pieces fuel setting (.quoted [.text text] :: read) s
      | [] => none
    else if c == '"' && setting != .document then
      match pieces fuel .quotes [] s with
      | some (inner, s) => pieces fuel setting (.quoted inner :: read) s
      | none => none
    else if c == '$' then
      match dollar fuel setting s with
      | some (piece, s) => pieces fuel setting (piece :: read) s
      | none => none
    else if c == '`' then
      match backquoted (if setting.isQuoted then "`$\\\"".toList else "`$\\".toList) [] s with
      | some (inner, s) =>
        match commands fuel inner with
        | some (command, []) => pieces fuel setting (.output command :: read) s
        | _ => none
      | none => none
    else pieces fuel setting (pushOctet c read) s

def dollar : Nat → Setting → Reader Piece
  | 0, _, _ => none
  | fuel + 1, setting, s =>
    match s with
    | '(' :: '(' :: s => (expression fuel 0 [] s).map fun (pieces, s) => (.value pieces, s)
    | '(' :: s =>
      match commands fuel s with
      | some (command, ')' :: s) => some (.output command, s)
      | _ => none
    | '\x7b' :: s => braced fuel setting s
    | s =>
      match shortParameter? s with
      | some (name, s) => some (.parameter name .plain [], s)
      | none => some (.text ['$'], s)

def braced : Nat → Setting → Reader Piece
  | 0, _, _ => none
  | fuel + 1, setting, s =>
    let length : Option (Piece × Octets) :=
      match s with
      | '#' :: s =>
        match parameter? s with
        | some (name, '\x7d' :: s) => some (.parameter name .length [], s)
        | _ => none
      | _ => none
    match length with
    | some found => some found
    | none =>
      match parameter? s with
      | none => none
      | some (name, '\x7d' :: s) => some (.parameter name .plain [], s)
      | some (name, s) =>
        match substitution? s with
        | none => none
        | some (change, s) =>
          (pieces fuel (wordSetting setting change) [] s).map fun (word, s) =>
            (.parameter name change word, s)

/-- The pieces of an arithmetic expression up to its two closing parentheses, `depth` other parentheses
being open. One that closes none belongs to the expression. -/
def expression : Nat → Nat → List Piece → Reader (List Piece)
  | 0, _, _, _ => none
  | _, _, _, [] => none
  | fuel + 1, depth, read, c :: s =>
    if c == '(' then expression fuel (depth + 1) (pushOctet c read) s
    else if c == ')' then
      match depth, s with
      | 0, ')' :: s => some (read.reverse, s)
      | 0, s => expression fuel 0 (pushOctet c read) s
      | depth + 1, s => expression fuel depth (pushOctet c read) s
    else if c == '$' then
      match dollar fuel .quotes s with
      | some (piece, s) => expression fuel depth (piece :: read) s
      | none => none
    else if c == '`' then
      match backquoted "`$\\".toList [] s with
      | some (inner, s) =>
        match commands fuel inner with
        | some (command, []) => expression fuel depth (.output command :: read) s
        | _ => none
      | none => none
    else if c == '\\' && s.head? == some '\n' then expression fuel depth read (s.drop 1)
    else if c == '"' then expression fuel depth read s
    else expression fuel depth (pushOctet c read) s

def word : Nat → Reader Word
  | 0, _ => none
  | fuel + 1, s =>
    match s with
    | [] => none
    | c :: _ => if endsWord c then none else pieces fuel .bare [] s

def redirections : Nat → Reader (List Redirection)
  | 0, _ => none
  | fuel + 1, s =>
    match redirection? (skipBlanks s) with
    | none => some ([], s)
    | some (descriptor, direction, rest) =>
      match redirection fuel descriptor direction rest with
      | none => none
      | some (r, rest) =>
        (redirections fuel rest).map fun (more, rest) => (r :: more, rest)

/-- The target of a redirection. A document is taken out of the lines that follow. -/
def redirection : Nat → Nat → Direction → Reader Redirection
  | 0, _, _, _ => none
  | fuel + 1, descriptor, direction, s =>
    if direction = .document then
      let (stripTabs, s) := match s with
        | '-' :: s => (true, s)
        | s => (false, s)
      match word fuel (skipBlanks s) with
      | none => none
      | some (mark, s) =>
        let (delimiter, isQuoted) := delimiterOf mark
        let line := s.takeWhile (· != '\n')
        let below := s.drop (line.length + 1)
        let (body, below) := documentLines delimiter stripTabs below.length below
        let rest := line ++ '\n' :: below
        if isQuoted then some (.mk descriptor .document [.quoted [.text body]], rest)
        else
          (pieces fuel .document [] body).map fun (body, _) =>
            (.mk descriptor .document [.quoted body], rest)
    else (word fuel (skipBlanks s)).map fun (target, s) => (.mk descriptor direction target, s)

/-- The assignments, words and redirections of a simple command; those read so far stand backwards. -/
def simple : Nat → List (Octets × Word) → List Word → List Redirection → Reader Command
  | 0, _, _, _, _ => none
  | fuel + 1, assigned, words, redirected, s =>
    let s := skipBlanks s
    match redirection? s with
    | some (descriptor, direction, rest) =>
      match redirection fuel descriptor direction rest with
      | some (r, s) => simple fuel assigned words (r :: redirected) s
      | none => none
    | none =>
      match if words.isEmpty then assignment? s else none with
      | some (name, rest) =>
        match pieces fuel .bare [] rest with
        | some (value, s) => simple fuel ((name, value) :: assigned) words redirected s
        | none => none
      | none =>
        if s.head?.all endsWord then
          if assigned.isEmpty && words.isEmpty && redirected.isEmpty then none
          else some (.simple assigned.reverse words.reverse redirected.reverse, s)
        else
          match word fuel s with
          | some (w, s) => simple fuel assigned (w :: words) redirected s
          | none => none

def commands : Nat → Reader Command
  | 0, _ => none
  | fuel + 1, s =>
    let s := skipLines s
    if atEnd s then some (.nothing, s)
    else
      match alternatives fuel s with
      | none => none
      | some (c, s) =>
        match skipBlanks s with
        | ';' :: ';' :: s => some (c, ';' :: ';' :: s)
        | ';' :: s => (commands fuel s).map fun (next, s) => (.sequence c next, s)
        | '&' :: s => (commands fuel s).map fun (next, s) => (.sequence (.background c) next, s)
        | '\n' :: s => (commands fuel s).map fun (next, s) => (.sequence c next, s)
        | s => some (c, s)

/-- A list with a command in it. -/
def block : Nat → Reader Command
  | 0, _ => none
  | fuel + 1, s => if atEnd (skipLines s) then none else commands fuel s

/-- Pipelines joined by what they succeed or fail in, from the left. -/
def alternatives : Nat → Reader Command
  | 0, _ => none
  | fuel + 1, s =>
    match pipeline fuel s with
    | none => none
    | some (c, s) => joinAlternatives fuel c s

def joinAlternatives : Nat → Command → Reader Command
  | 0, _, _ => none
  | fuel + 1, c, s =>
    match skipBlanks s with
    | '&' :: '&' :: s =>
      match pipeline fuel (skipLines s) with
      | some (next, s) => joinAlternatives fuel (.andThen c next) s
      | none => none
    | '|' :: '|' :: s =>
      match pipeline fuel (skipLines s) with
      | some (next, s) => joinAlternatives fuel (.orElse c next) s
      | none => none
    | s => some (c, s)

def pipeline : Nat → Reader Command
  | 0, _ => none
  | fuel + 1, s =>
    match plainWord? (skipBlanks s) with
    | some (['!'], s) => (pipeline fuel s).map fun (c, s) => (.negated c, s)
    | _ =>
      match command fuel (skipBlanks s) with
      | none => none
      | some (c, s) => joinPipeline fuel c s

def joinPipeline : Nat → Command → Reader Command
  | 0, _, _ => none
  | fuel + 1, c, s =>
    match skipBlanks s with
    | '|' :: '|' :: s => some (c, '|' :: '|' :: s)
    | '|' :: s =>
      match command fuel (skipLines s) with
      | some (next, s) => (joinPipeline fuel next s).map fun (next, s) => (.pipe c next, s)
      | none => none
    | s => some (c, s)

def command : Nat → Reader Command
  | 0, _ => none
  | fuel + 1, s =>
    let compound : Option (Option (Command × Octets)) :=
      match s with
      | '(' :: s =>
        match block fuel s with
        | some (c, ')' :: s) => some (some (.subshell c, s))
        | _ => some none
      | s =>
        match plainWord? s with
        | none => none
        | some (word, rest) =>
          match String.ofList word with
          | "\x7b" =>
            some <| match block fuel rest with
              | some (c, s) => (expect? "\x7d" s).map fun s => (c, s)
              | none => none
          | "if" => some (conditional fuel rest)
          | "while" => some (loopRest fuel true rest)
          | "until" => some (loopRest fuel false rest)
          | "for" => some (eachRest fuel rest)
          | "case" => some (selectRest fuel rest)
          | name =>
            if name ∈ closers then some none
            else
              match isName word, skipBlanks rest with
              | true, '(' :: rest =>
                match skipBlanks rest with
                | ')' :: rest =>
                  some ((command fuel (skipLines rest)).map fun (body, s) => (.function word body, s))
                | _ => some none
              | _, _ => none
    match compound with
    | none => simple fuel [] [] [] s
    | some none => none
    | some (some (c, s)) =>
      match redirections fuel s with
      | none => none
      | some ([], s) => some (c, s)
      | some (rs, s) => some (.redirected c rs, s)

def conditional : Nat → Reader Command
  | 0, _ => none
  | fuel + 1, s => do
    let (condition, s) ← block fuel s
    let s ← expect? "then" s
    let (yes, s) ← block fuel s
    let (word, rest) ← plainWord? (skipLines s)
    match String.ofList word with
    | "fi" => some (.choice condition yes .nothing, rest)
    | "elif" => (conditional fuel rest).map fun (no, s) => (.choice condition yes no, s)
    | "else" =>
      let (no, s) ← block fuel rest
      let s ← expect? "fi" s
      some (.choice condition yes no, s)
    | _ => none

def body : Nat → Reader Command
  | 0, _ => none
  | fuel + 1, s => do
    let s ← expect? "do" s
    let (c, s) ← block fuel s
    let s ← expect? "done" s
    some (c, s)

def loopRest : Nat → Bool → Reader Command
  | 0, _, _ => none
  | fuel + 1, ending, s => do
    let (condition, s) ← block fuel s
    let (c, s) ← body fuel s
    some (.loop ending condition c, s)

/-- The words of a loop up to the end of their line; those read so far stand backwards. -/
def eachWords : Nat → List Word → Reader (List Word)
  | 0, _, _ => none
  | fuel + 1, words, s =>
    match skipBlanks s with
    | ';' :: s => some (words.reverse, s)
    | '\n' :: s => some (words.reverse, s)
    | s =>
      match word fuel s with
      | some (w, s) => eachWords fuel (w :: words) s
      | none => none

def eachRest : Nat → Reader Command
  | 0, _ => none
  | fuel + 1, s => do
    let (name, s) ← plainWord? (skipBlanks s)
    if !isName name then none
    else
      match expect? "in" s with
      | some s =>
        let (words, s) ← eachWords fuel [] s
        let (c, s) ← body fuel s
        some (.each name (some words) c, s)
      | none =>
        let s := match skipBlanks s with
          | ';' :: s => s
          | s => s
        let (c, s) ← body fuel s
        some (.each name none c, s)

def selectRest : Nat → Reader Command
  | 0, _ => none
  | fuel + 1, s => do
    let (subject, s) ← word fuel (skipBlanks s)
    let s ← expect? "in" s
    let (arms, s) ← arms fuel s
    some (.select subject arms, s)

def arms : Nat → Reader (List Arm)
  | 0, _ => none
  | fuel + 1, s =>
    match expect? "esac" s with
    | some s => some ([], s)
    | none => do
      let s := match skipLines s with
        | '(' :: s => s
        | s => s
      let (patterns, s) ← patterns fuel s
      let (c, s) ← commands fuel s
      match skipBlanks s with
      | ';' :: ';' :: s =>
        let (more, s) ← arms fuel s
        some (.mk patterns c :: more, s)
      | s =>
        let s ← expect? "esac" s
        some ([.mk patterns c], s)

def patterns : Nat → Reader (List Word)
  | 0, _ => none
  | fuel + 1, s => do
    let (p, s) ← word fuel (skipBlanks s)
    match skipBlanks s with
    | '|' :: s =>
      let (more, s) ← patterns fuel s
      some (p :: more, s)
    | ')' :: s => some ([p], s)
    | _ => none

end

/-- The commands of a line, or of several lines if one does not end them. -/
def line : Nat → Reader Command
  | 0, _ => none
  | fuel + 1, s =>
    let behind (c : Command) (s : Octets) : Option (Command × Octets) :=
      match skipBlanks s with
      | [] => some (c, [])
      | '\n' :: s => some (c, s)
      | s => (line fuel s).map fun (next, s) => (.sequence c next, s)
    match alternatives (8 * s.length + 32) s with
    | none => none
    | some (c, s) =>
      match skipBlanks s with
      | [] => some (c, [])
      | '\n' :: s => some (c, s)
      | ';' :: s => behind c s
      | '&' :: s => behind (.background c) s
      | _ => none

/-- The next commands of a text; nothing is left to read if the text is empty. -/
def nextLine (s : Octets) : Option (Option (Command × Octets)) :=
  let s := skipLines s
  if s.isEmpty then some none else (line s.length.succ s).map some

end HotSchema.Shell
