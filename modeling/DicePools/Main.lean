import DicePools.Command.Run

/-! The `ic` program: reads the files a command names, runs it and prints what it leaves. -/

open DicePools

/-- Why a file could not be read, in the words of the operating system. -/
def readFailure : IO.Error → String
  | .noFileOrDirectory .. => "No such file or directory (os error 2)"
  | .permissionDenied .. => "Permission denied (os error 13)"
  | .alreadyExists .. => "File exists (os error 17)"
  | e => toString e

/-- Reads the files a command needs, before it runs. -/
def readNamed (paths : List String) : IO (List (String × Except String String)) :=
  paths.mapM fun (a : String) => do
    match ← (IO.FS.readFile a).toBaseIO with
    | .ok text => pure (a, .ok text)
    | .error e => pure (a, .error (readFailure e))

def main (args : List String) : IO UInt32 := do
  let command := Command.parse args
  let files ← readNamed command.paths
  let read : FileReader := fun p => (files.lookup p).getD (.error "No such file or directory (os error 2)")
  let out := command.run read
  IO.print out.stdout
  IO.eprint out.stderr
  pure (UInt32.ofNat out.exit)
