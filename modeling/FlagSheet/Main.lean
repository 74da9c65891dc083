import FlagSheet.CommandLine.Run
import FlagSheet.Config.Surroundings
import FlagSheet.Markup.Reader

namespace FlagSheet.Main

def faultOf : IO.Error → ReadFault
  | .noFileOrDirectory .. => .notFound
  | .inappropriateType _ 20 _ => .notDirectory
  | .inappropriateType _ 21 _ => .isDirectory
  | e => .other (toString e)

def readFile (path : String) : IO (Except ReadFault Bytes) := do
  try
    return .ok (← IO.FS.readBinFile path).toList
  catch e =>
    return .error (faultOf e)

def finish (e : Exit) : IO UInt32 := do
  (← IO.getStdout).putStr e.output
  (← IO.getStderr).putStr e.report
  return e.code.toUInt32

end FlagSheet.Main

open FlagSheet in
def main (arguments : List String) : IO UInt32 := do
  match Command.ofArguments (← IO.getEnv Settings.secretVariable) arguments with
  | .error stop => Main.finish stop.exit
  | .ok command => Main.finish (command.run (← Main.readFile command.file))
