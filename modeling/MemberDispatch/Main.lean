import MemberDispatch.CommandLine

/-!
# The program

Runs the command line in a world without declarations of its own. The file of the configuration is
read from the disk, if the command line names one that is there.
-/

open MemberDispatch

/-- The file that the arguments name as the configuration, if it is there. -/
def configurationFile (arguments : List String) : IO Folder := do
  let path? := match Command.read arguments with
    | .ok (.members said) | .ok (.eval said) => said.value? "config"
    | _ => none
  match path? with
  | none => return {}
  | some path =>
      try
        let text ← IO.FS.readFile path
        return { files := [(.ofText path, text)] }
      catch _ => return {}

/-- Carries out a command line, prints what it gives and ends with its status. -/
def main (arguments : List String) : IO UInt32 := do
  let folder ← configurationFile arguments
  let engine := World.engine {}
  match ((engine.runCommandLine folder arguments).run.run {}).1 with
  | .ok outcome =>
      (← IO.getStdout).putStr outcome.output
      (← IO.getStderr).putStr outcome.complaint
      return UInt32.ofNat outcome.status
  | .error fault =>
      (← IO.getStderr).putStrLn (fault.kind.name ++ ": " ++ fault.message)
      return 1
