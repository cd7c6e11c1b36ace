/-!
# TOML values

The values that settings and manifests are made of: strings, integers, arrays and tables. TOML has more,
but no key of ours takes a truth value, a fraction or a date, so a document that holds one is refused
like any other that does not fit.

A table remembers how it came about, since that decides what may still be added to it: a table with a
header of its own may get tables below it, one that only stands above such a table may get its own
header later, one made by a dotted key grows by dotted keys, and one in braces is complete. Likewise an
array made by double-bracket headers gets elements until the end of the document.
-/

namespace HotSchema.Toml

inductive TableKind where
  | underPath
  | header
  | dotted
  | inBraces
  deriving DecidableEq

inductive Value where
  | string (s : String)
  | integer (n : Int)
  | array (ofTables : Bool) (elements : List Value)
  | table (kind : TableKind) (entries : List (String × Value))

abbrev Entries := List (String × Value)

namespace Entries

def get? (t : Entries) (key : String) : Option Value := (t.find? (·.1 = key)).map (·.2)

/-- Sets the value of a key in its place, at the end if it is new. -/
def set (t : Entries) (key : String) (v : Value) : Entries :=
  if (t.find? (·.1 = key)).isSome then t.map fun e => if e.1 = key then (key, v) else e
  else t ++ [(key, v)]

end Entries

/-- Changes the table at the end of a path by `f`, or fails where `f` does. Missing tables on the way are
made. A path leads through the last element of an array made by headers. A dotted key never leads
through a table that has a header. -/
def updateAt (dotted : Bool) (f : TableKind → Entries → Option Value) :
    List String → TableKind → Entries → Option Value
  | [], kind, entries => f kind entries
  | key :: path, kind, entries =>
    let put (v : Value) : Value := .table kind (entries.set key v)
    match entries.get? key with
    | none => (updateAt dotted f path (if dotted then .dotted else .underPath) []).map put
    | some (.table below belowEntries) =>
      if below = .inBraces || (dotted && below = .header) then none
      else (updateAt dotted f path below belowEntries).map put
    | some (.array true elements) =>
      match elements.getLast? with
      | some (.table below belowEntries) =>
        (updateAt dotted f path below belowEntries).map fun v =>
          put (.array true (elements.dropLast ++ [v]))
      | _ => none
    | some _ => none

/-- Adds a value under a new key. A table made by dotted keys takes dotted keys only, and only such a
table does. -/
def addEntry (isDotted : Bool) (key : String) (v : Value) (kind : TableKind) (entries : Entries) :
    Option Value :=
  if decide (kind = .dotted) != isDotted || (entries.get? key).isSome then none
  else some (.table kind (entries ++ [(key, v)]))

/-- Opens a table by its header. One that so far only stood above others keeps them. -/
def openTable (key : String) (kind : TableKind) (entries : Entries) : Option Value :=
  match entries.get? key with
  | none => some (.table kind (entries.set key (.table .header [])))
  | some (.table .underPath below) => some (.table kind (entries.set key (.table .header below)))
  | some _ => none

def openElement (key : String) (kind : TableKind) (entries : Entries) : Option Value :=
  match entries.get? key with
  | none => some (.table kind (entries.set key (.array true [.table .header []])))
  | some (.array true elements) =>
    some (.table kind (entries.set key (.array true (elements ++ [.table .header []]))))
  | some _ => none

end HotSchema.Toml
