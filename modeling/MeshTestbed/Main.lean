import MeshTestbed.CommandLine.Performance
import MeshTestbed.Host.Machine
import MeshTestbed.Run.Identifier

/-!
The command line. An operation runs on a rehearsal machine that has the configuration and the files
that its commands name.
-/

namespace MeshTestbed

def mount (files : Files) (path : String) : IO Files := do
  if (files.find path).toOption.isSome then return files
  try return files.addFile path (← IO.FS.readBinFile path).toList
  catch
    | .inappropriateType .. => return files.addDirectory path
    | _ => return files

def performed (request : Request) : IO Ending := do
  let files ← request.configFile?.toList.foldlM mount Host.machine
  let files ← (request.commandWords files).foldlM mount files
  let runId := runIdOf (← IO.rand 0 (UInt64.size * UInt64.size - 1))
  return request.perform files Host.runner { memory := files } runId

end MeshTestbed

open MeshTestbed in
def main (args : List String) : IO UInt32 := do
  let ending ← performed (Request.ofArguments args)
  IO.print ending.printout.render
  if let some message := ending.error then IO.eprintln ("Error: " ++ message)
  return ending.exitCode.toUInt32
