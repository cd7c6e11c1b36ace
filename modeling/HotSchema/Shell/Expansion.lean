import HotSchema.Shell.Arithmetic
import HotSchema.Shell.Machine
/-!
# Expansion

A word expands in three steps. Its pieces become a row of marks: octets, each with the knowledge whether
it was quoted and whether a field may be split at it. The row is cut into fields at the separators. A
field that is a pattern becomes the paths that it fits, and stands for itself if there are none.

The output of a command is had from a function that is given.
-/

namespace HotSchema.Shell

inductive Mark where
  | octet (glyph : Glyph) (splits : Bool)
  /-- Quotes, which make a field even around nothing. -/
  | quotes
  /-- The end of an argument. -/
  | cut
  deriving DecidableEq

def marksOf (quoted splits : Bool) (octets : Octets) : List Mark :=
  octets.map fun c => .octet ⟨c, quoted⟩ (splits && !quoted)

def glyphsOf (marks : List Mark) : List Glyph :=
  marks.filterMap fun mark =>
    match mark with
    | .octet g _ => some g
    | .quotes => none
    | .cut => some ⟨' ', false⟩

def octetsOf (marks : List Mark) : Octets := (glyphsOf marks).map Glyph.octet

/-! ### Parameters -/

def processNumber : String := "4242"

def Machine.flags (m : Machine) : String :=
  (if m.stopOnFailure then "e" else "") ++ (if m.noPaths then "f" else "")
    ++ (if m.stopOnMissing then "u" else "")

def joinWith (separator : Octets) : List Octets → Octets
  | [] => []
  | [a] => a
  | a :: rest => a ++ separator ++ joinWith separator rest

/-- The value of a parameter; the arguments together are joined by the first separator. -/
def Machine.parameter? (m : Machine) (name : Octets) : Option Octets :=
  match name with
  | ['#'] => some (toString m.arguments.length).toList
  | ['?'] => some (toString m.status).toList
  | ['$'] => some processNumber.toList
  | ['!'] => none
  | ['-'] => some m.flags.toList
  | ['0'] => some m.self
  | ['@'] | ['*'] =>
    if m.arguments.isEmpty then none else some (joinWith (m.separators.take 1) m.arguments)
  | c :: _ =>
    if c.isDigit then m.arguments[(numeralIn? 10 name).getD 0 - 1]?
    else m.value? name
  | [] => none

def argumentMarks (quoted : Bool) : List Octets → List Mark
  | [] => []
  | [a] => (if quoted then [.quotes] else []) ++ marksOf quoted true a
  | a :: rest =>
    (if quoted then [.quotes] else []) ++ marksOf quoted true a ++ .cut :: argumentMarks quoted rest

/-- The shortest or longest start of a value that a pattern fits, by its length. -/
def fittingStart? (p : Glob) (longest : Bool) (value : Octets) : Option Nat :=
  let lengths := (List.range (value.length + 1)).filter fun n => p.fits (value.take n)
  if longest then lengths.getLast? else lengths.head?

def cutStart (p : Glob) (longest : Bool) (value : Octets) : Octets :=
  value.drop ((fittingStart? p longest value).getD 0)

def cutEnd (p : Glob) (longest : Bool) (value : Octets) : Octets :=
  let lengths := (List.range (value.length + 1)).filter fun n => p.fits (value.drop n)
  match if longest then lengths.head? else lengths.getLast? with
  | some n => value.take n
  | none => value

/-- Whether pieces between quotes are nothing but the arguments, of which each is a field. -/
def areArguments : List Piece → Bool
  | [.parameter ['@'] .plain _] => true
  | _ => false

def assignVariable (name value : Octets) : Action Unit := do
  if (← get).isReadOnly name then fail 2 (String.ofList name ++ ": is read only")
  else modify fun m => m.assign name value

def evaluate (text : Octets) : Action Octets := do
  let m ← get
  let valueOf (name : Octets) : Option Int := numberOf? ((m.value? name).getD [])
  match (Expr.ofText? text).bind fun e => e.eval valueOf [] with
  | none => fail 2 "arithmetic expression: expecting primary"
  | some (n, assigned) =>
    for (name, value) in assigned.reverse do
      assignVariable name (toString value).toList
    pure (toString n).toList

/-! ### Marks -/

section
variable (outputOf : Command → Action Octets) (fields : Bool)

mutual

/-- The marks of a piece, inside quotes or not, and in a place where fields may be split or not. Only
where `fields` are wanted do the arguments become several. -/
def expandPiece (quoted splits : Bool) : Piece → Action (List Mark)
  | .text octets => pure (marksOf quoted splits octets)
  | .quoted inner => do
    let marks ← expandPieces true splits inner
    pure (if fields && areArguments inner then marks else .quotes :: marks)
  | .output command => do
    let output ← outputOf command
    let trimmed := (output.reverse.dropWhile (· == '\n')).reverse
    pure (marksOf quoted true (trimmed.filter (· != '\x00')))
  | .value expression => do
    let marks ← expandPieces true false expression
    pure (marksOf quoted true (← evaluate (octetsOf marks)))
  | .parameter name change word => do
    let m ← get
    let value := m.parameter? name
    let isMissing (orEmpty : Bool) : Bool := value.isNone || (orEmpty && value == some [])
    let present : List Mark :=
      if fields && (name = ['@'] || (name = ['*'] && !quoted)) then argumentMarks quoted m.arguments
      else marksOf quoted true (value.getD [])
    let orMissing (message : String) : Action (List Mark) :=
      if m.stopOnMissing && value.isNone && name ≠ ['@'] && name ≠ ['*'] then
        fail 2 (String.ofList name ++ ": " ++ message)
      else pure present
    match change with
    | .plain => orMissing "parameter not set"
    | .length => do
      let _ ← orMissing "parameter not set"
      let size := if name = ['@'] || name = ['*'] then m.arguments.length else (value.getD []).length
      pure (marksOf quoted true (toString size).toList)
    | .orElse orEmpty => if isMissing orEmpty then expandPieces quoted true word else pure present
    | .assign orEmpty =>
      if isMissing orEmpty then do
        let marks ← expandPieces quoted true word
        if isName name then assignVariable name (octetsOf marks)
        else fail 2 (String.ofList name ++ ": bad variable name")
        pure (marksOf quoted true (octetsOf marks))
      else pure present
    | .demand orEmpty =>
      if isMissing orEmpty then do
        let marks ← expandPieces quoted true word
        let message := String.ofList (octetsOf marks)
        fail 2 (String.ofList name ++ ": "
          ++ if message.isEmpty then "parameter not set or null" else message)
      else pure present
    | .instead orEmpty => if isMissing orEmpty then pure [] else expandPieces quoted true word
    | .cutStart longest => do
      let marks ← expandPieces false false word
      let _ ← orMissing "parameter not set"
      pure (marksOf quoted true (cutStart (Glob.ofGlyphs (glyphsOf marks)) longest (value.getD [])))
    | .cutEnd longest => do
      let marks ← expandPieces false false word
      let _ ← orMissing "parameter not set"
      pure (marksOf quoted true (cutEnd (Glob.ofGlyphs (glyphsOf marks)) longest (value.getD [])))

def expandPieces (quoted splits : Bool) : List Piece → Action (List Mark)
  | [] => pure []
  | piece :: rest => do
    let marks ← expandPiece quoted splits piece
    let more ← expandPieces quoted splits rest
    pure (marks ++ more)

end

def expandText (w : Word) : Action Octets := do
  pure (octetsOf (← expandPieces outputOf false false false w))

def expandPattern (w : Word) : Action Glob := do
  pure (Glob.ofGlyphs (glyphsOf (← expandPieces outputOf false false false w)))

end

/-! ### Fields -/

/-- Separators that are blanks count as one where they stand together. -/
def isBlankSeparator (separators : Octets) (c : Char) : Bool := c ∈ separators && c ∈ " \t\n".toList

/-- Cuts a row of marks into fields. The field under way stands backwards, if one has begun; `wasBlank`
tells that the last field ended at a blank, which a following separator then belongs to. -/
def fieldsFrom (separators : Octets) (field : Option (List Glyph)) (wasBlank : Bool) :
    List Mark → List (List Glyph)
  | [] => field.toList.map List.reverse
  | .quotes :: rest => fieldsFrom separators (some (field.getD [])) false rest
  | .cut :: rest => field.toList.map List.reverse ++ fieldsFrom separators none false rest
  | .octet g splits :: rest =>
    if splits && g.octet ∈ separators then
      let isBlank := isBlankSeparator separators g.octet
      match field with
      | some f => f.reverse :: fieldsFrom separators none isBlank rest
      | none =>
        if isBlank then fieldsFrom separators none wasBlank rest
        else if wasBlank then fieldsFrom separators none false rest
        else [] :: fieldsFrom separators none false rest
    else fieldsFrom separators (some (g :: field.getD [])) false rest

def fieldsOf (separators : Octets) (marks : List Mark) : List (List Glyph) :=
  fieldsFrom separators none false marks

/-! ### Paths -/

def pathParts : List Glyph → List (List Glyph)
  | [] => [[]]
  | g :: rest =>
    match pathParts rest with
    | part :: more => if g.octet == '/' then [] :: part :: more else (g :: part) :: more
    | [] => [[g]]

/-- A name that begins with a dot is fitted only by a pattern that does. -/
def showsDot (part : List Glyph) : Bool := (part.head?.map Glyph.octet) == some '.'

def matchParts (m : Machine) : List (List Glyph) → Octets → List Octets
  | [], path => if m.files.resolve m.here (Octets.toText path) |>.toOption.any
      (fun route => (m.files.node? route).isSome) then [path] else []
  | part :: rest, path =>
    let onward (name : Octets) : List Octets :=
      matchParts m rest (path ++ name ++ if rest.isEmpty then [] else ['/'])
    let p := Glob.ofGlyphs part
    if p.isOpen then
      let directory := if path.isEmpty then "." else Octets.toText path
      match m.files.resolve m.here directory with
      | .error _ => []
      | .ok route =>
        if m.files.node? route = some .directory then
          ([['.'], ['.', '.']] ++ (m.files.list route).map Octets.ofText).flatMap fun name =>
            if p.fits name && (name.head? != some '.' || showsDot part) then onward name else []
        else []
    else onward (part.map Glyph.octet)

/-- The paths that a field fits, or the field itself. -/
def pathsOf (m : Machine) (field : List Glyph) : List Octets :=
  let itself := field.map Glyph.octet
  if m.noPaths || !(Glob.ofGlyphs field).isOpen then [itself]
  else
    match matchParts m (pathParts field) [] with
    | [] => [itself]
    | paths => paths

def expandWords (outputOf : Command → Action Octets) : List Word → Action (List Octets)
  | [] => pure []
  | w :: rest => do
    let marks ← expandPieces outputOf true false false w
    let m ← get
    let fields := (fieldsOf m.separators marks).flatMap (pathsOf m)
    let more ← expandWords outputOf rest
    pure (fields ++ more)

end HotSchema.Shell
