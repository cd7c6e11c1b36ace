import HotSchema.Command.Check
/-!
# The command

Reads the files that the arguments name, and prints what the check says.
-/

open HotSchema

def readSystemFile (path : String) : IO (Except FileError String) := do
  try
    let content ← IO.FS.readBinFile path
    pure (match String.fromUTF8? content with
      | some text => .ok text
      | none => .error .notText)
  catch _ => pure (.error .notFound)

def main (arguments : List String) : IO UInt32 := do
  let ending ← match Usage.ofArguments arguments with
    | .check o => pure (check o (← readSystemFile o.config) (← readSystemFile o.schema))
    | _ => pure (runCommand arguments fun _ => .error .notFound)
  IO.print ending.output
  match ending.errors with
  | e :: _ => IO.eprintln s!"Error: {e}"
  | [] => pure ()
  pure ending.code.toUInt32
