import RouteParams.CommandLine.Program

/-!
The program on the files of the system.
-/
namespace RouteParams.CommandLine

/-- The number of a system error, which is given with either sign. -/
def systemNumber (code : UInt32) : UInt32 :=
  if code < 0x80000000 then code else 0 - code

def fileError (path : String) : IO.Error → FileError
  | .inappropriateType _ code _ =>
    if systemNumber code = 21 then .isDirectory path else .notDirectory path
  | .invalidArgument _ code _ =>
    if systemNumber code = 36 then .nameTooLong path else .missing path
  | .permissionDenied _ _ _ => .denied path
  | _ => .missing path

def readFile (path : String) : IO (Except FileError (List UInt8)) := do
  let normal := Path.normalize path
  if path.toList.contains '\x00' then return .error .nullCharacter
  try
    let content ← IO.FS.readBinFile normal
    return .ok content.toList
  catch error => return .error (fileError normal error)

def answer (arguments : List String) : IO Outcome := do
  match Command.ofArguments arguments with
  | .ok (.resolve request) => return request.outcome (← readFile request.file)
  | _ => return run (fun path => .error (.missing path)) arguments

end RouteParams.CommandLine

open RouteParams.CommandLine in
def main (arguments : List String) : IO UInt32 := do
  let outcome ← answer arguments
  (← IO.getStdout).putStr outcome.output
  (← IO.getStderr).putStr outcome.errors
  return outcome.status.toUInt32
