import TabMarkup.CommandLine

/-! The program: reads the file that the command line names, and prints or writes. -/
namespace TabMarkup.CommandLine

/-- Storage with what is on disk at one path, or with nothing. -/
def storageAt (path : String) : IO Storage := do
  try
    let bytes ← IO.FS.readBinFile path
    return (Storage.ofFile path bytes.toList).toOption.getD {}
  catch _ => return {}

end TabMarkup.CommandLine

open TabMarkup

def main (args : List String) : IO UInt32 := do
  match CommandLine.parse args with
  | none =>
    IO.eprintln "error: the arguments cannot be understood"
    return 2
  | some (o, file) =>
    match (CommandLine.readDocument o file (← CommandLine.storageAt file)).result with
    | .error e =>
      IO.eprintln e.message
      return 1
    | .ok d =>
      IO.print (CommandLine.printed o d)
      match o.output with
      | none => return 0
      | some path =>
        try
          IO.FS.writeFile path d.render
          return 0
        catch e =>
          IO.eprintln (toString e)
          return 1
