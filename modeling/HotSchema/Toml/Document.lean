import HotSchema.Toml.Lexical
import HotSchema.Toml.Value
/-!
# TOML documents

A document is read line by line: a key with its value, the header of a table, the header of an element
of an array of tables, or nothing but blanks and a comment. Keys go into the table whose header came
last. No key is set twice and no table is opened twice.
-/

namespace HotSchema.Toml

def addPath (path : List String) (v : Value) (kind : TableKind) (entries : Entries) : Option Value :=
  match path.getLast? with
  | none => none
  | some key =>
    let above := path.dropLast
    let isDotted := !above.isEmpty
    updateAt isDotted (fun k e => if isDotted then addEntry true key v k e
      else if (e.get? key).isSome then none else some (.table k (e ++ [(key, v)]))) above kind entries

mutual

def valueFrom : Nat → List Char → Read Value
  | 0, _ => none
  | fuel + 1, s =>
    match s with
    | '[' :: s => (elementsFrom fuel s).map fun (elements, s) => (.array false elements, s)
    | '\x7b' :: s => (membersFrom fuel [] s).map fun (entries, s) => (.table .inBraces entries, s)
    | '"' :: _ => (anyString s).map fun (text, s) => (.string text, s)
    | '\'' :: _ => (anyString s).map fun (text, s) => (.string text, s)
    | s => (integer s).map fun (n, s) => (.integer n, s)

/-- The rest of an array; a comma may follow the last element. -/
def elementsFrom : Nat → List Char → Read (List Value)
  | 0, _ => none
  | fuel + 1, s =>
    match skipAll s with
    | ']' :: s => some ([], s)
    | s =>
      (valueFrom fuel s).bind fun (v, s) =>
        match skipAll s with
        | ',' :: s => (elementsFrom fuel s).map fun (vs, s) => (v :: vs, s)
        | ']' :: s => some ([v], s)
        | _ => none

/-- The rest of a table in braces; a comma may follow the last entry. -/
def membersFrom : Nat → Entries → List Char → Read Entries
  | 0, _, _ => none
  | fuel + 1, entries, s =>
    match skipAll s with
    | '}' :: s => some (entries, s)
    | s =>
      (key s).bind fun (path, s) =>
        match s with
        | '=' :: s =>
          (valueFrom fuel (skipBlanks s)).bind fun (v, s) =>
            match addPath path v .underPath entries with
            | some (.table _ entries) =>
              match skipAll s with
              | ',' :: s => membersFrom fuel entries s
              | '}' :: s => some (entries, s)
              | _ => none
            | _ => none
        | _ => none

end

/-- What has been read of a document: the tables so far, and the path of the one that keys go to. -/
structure Reading where
  entries : Entries
  current : List String

def Reading.ofRoot (current : List String) : Option Value → Option Reading
  | some (.table _ entries) => some ⟨entries, current⟩
  | _ => none

def header (r : Reading) (isElement : Bool) (s : List Char) : Read Reading :=
  (key s).bind fun (path, s) =>
    match Text.dropPrefix? (if isElement then [']', ']'] else [']']) s, path.getLast? with
    | some s, some name =>
      let opening := if isElement then openElement name else openTable name
      (Reading.ofRoot path (updateAt false opening path.dropLast .header r.entries)).map (·, s)
    | _, _ => none

def assignment (r : Reading) (s : List Char) : Read Reading :=
  (key s).bind fun (path, s) =>
    match s with
    | '=' :: s =>
      let s := skipBlanks s
      (valueFrom (s.length + 1) s).bind fun (v, s) =>
        (Reading.ofRoot r.current (updateAt false (addPath path v) r.current .header r.entries)).map
          (·, s)
    | _ => none

def expression (r : Reading) (s : List Char) : Read Reading :=
  match s with
  | '[' :: '[' :: s => header r true s
  | '[' :: s => header r false s
  | [] => some (r, s)
  | c :: _ => if c = '#' || c = '\n' || c = '\r' then some (r, s) else assignment r s

def linesFrom : Nat → Reading → List Char → Option Entries
  | 0, _, _ => none
  | fuel + 1, r, s =>
    (expression r (skipBlanks s)).bind fun (r, s) =>
      match skipComment (skipBlanks s) with
      | [] => some r.entries
      | s => (lineEnd? s).bind (linesFrom fuel r)

/-- The entries of a document, which may begin with a byte order mark. -/
def parse (text : String) : Option Entries :=
  let s := (Text.dropPrefix? ['\uFEFF'] text.toList).getD text.toList
  linesFrom (s.length + 1) ⟨[], []⟩ s

end HotSchema.Toml
