import HotSchema.Text.Octets
/-!
# Files

A tree of directories and files, and the rules by which a path leads through it: names between slashes,
a dot for the directory itself, two dots for the one above. The tree is a list of its nodes, each under
the names that lead to it from the root.
-/

namespace HotSchema

inductive FileError where
  | notFound
  | permissionDenied
  | notADirectory
  | isADirectory
  | nameTooLong
  | zeroByte
  | notText
  deriving DecidableEq

def FileError.message : FileError → String
  | notFound => "No such file or directory (os error 2)"
  | permissionDenied => "Permission denied (os error 13)"
  | notADirectory => "Not a directory (os error 20)"
  | isADirectory => "Is a directory (os error 21)"
  | nameTooLong => "File name too long (os error 36)"
  | zeroByte => "file name contained an unexpected NUL byte"
  | notText => "stream did not contain valid UTF-8"

inductive FileNode where
  | directory
  | file (content : ByteArray)
  /-- Reads as empty and keeps nothing that is written to it. -/
  | sink
  deriving DecidableEq

/-- The names that lead from the root to a node. -/
abbrev Route := List String

abbrev FileTree := List (Route × FileNode)

namespace FileTree

/-- The directories that every system has, and the sink. -/
def standard : FileTree :=
  (([[], ["bin"], ["dev"], ["etc"], ["home"], ["lib"], ["lib64"], ["media"], ["mnt"], ["opt"], ["proc"],
    ["root"], ["run"], ["sbin"], ["srv"], ["sys"], ["tmp"], ["usr"], ["usr", "bin"], ["usr", "lib"],
    ["usr", "local"], ["usr", "sbin"], ["usr", "share"], ["var"], ["var", "tmp"]] : List Route).map
    (·, FileNode.directory)) ++ [(["dev", "null"], .sink)]

def node? (t : FileTree) (route : Route) : Option FileNode := (t.find? (·.1 = route)).map (·.2)

def put (t : FileTree) (route : Route) (node : FileNode) : FileTree :=
  if (t.node? route).isSome then t.map fun e => if e.1 = route then (route, node) else e
  else t ++ [(route, node)]

/-- The names in a path, and whether it begins at the root. -/
def namesOf (path : String) : Bool × List String :=
  (path.startsWith "/", (path.splitOn "/").filter (!·.isEmpty))

/-- Follows all names but the last, each of which has to lead to a directory. -/
def follow (t : FileTree) (here : Route) : List String → Except FileError Route
  | [] => .ok here
  | name :: rest =>
    match t.node? here with
    | none => .error .notFound
    | some .directory =>
      if 255 < name.utf8ByteSize then .error .nameTooLong
      else if name = "." then follow t here rest
      else if name = ".." then follow t here.dropLast rest
      else follow t (here ++ [name]) rest
    | some _ => .error .notADirectory

/-- The route that a path stands for, seen from a directory; there need be nothing at its end. -/
def resolve (t : FileTree) (here : Route) (path : String) : Except FileError Route :=
  if path.contains '\x00' then .error .zeroByte
  else if path.isEmpty then .error .notFound
  else if 4095 < path.utf8ByteSize then .error .nameTooLong
  else
    let (absolute, names) := namesOf path
    match t.follow (if absolute then [] else here) names with
    | .error e => .error e
    | .ok route =>
      match t.node? route with
      | some .directory | none => .ok route
      | some _ => if path.endsWith "/" then .error .notADirectory else .ok route

def read (t : FileTree) (here : Route) (path : String) : Except FileError ByteArray :=
  match t.resolve here path with
  | .error e => .error e
  | .ok route =>
    match t.node? route with
    | none => .error .notFound
    | some .directory => .error .isADirectory
    | some .sink => .ok ByteArray.empty
    | some (.file content) => .ok content

def readText (t : FileTree) (here : Route) (path : String) : Except FileError String :=
  match t.read here path with
  | .error e => .error e
  | .ok content =>
    match String.fromUTF8? content with
    | some text => .ok text
    | none => .error .notText

/-- Writes a file, after what it holds if `append` is set. -/
def write (t : FileTree) (here : Route) (path : String) (content : ByteArray) (append : Bool) :
    Except FileError FileTree :=
  match t.resolve here path with
  | .error e => .error e
  | .ok route =>
    match t.node? route with
    | some .directory => .error .isADirectory
    | some .sink => .ok t
    | some (.file old) => .ok (t.put route (.file (if append then old ++ content else content)))
    | none =>
      if path.endsWith "/" then .error .isADirectory
      else if t.node? route.dropLast = some .directory then .ok (t.put route (.file content))
      else .error .notFound

def list (t : FileTree) (directory : Route) : List String :=
  (t.filterMap fun e =>
    match e.1.getLast? with
    | some name => if e.1.dropLast = directory then some name else none
    | none => none).mergeSort fun a b => a ≤ b

end FileTree

end HotSchema
