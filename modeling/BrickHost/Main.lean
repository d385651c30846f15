import BrickHost.CommandLine

/-! The monitor as a program: files are read, lines are printed. -/

namespace BrickHost

def readFile (path : String) : IO (Option (List UInt8)) := do
  try
    return some (← IO.FS.readBinFile path).toList
  catch _ => return none

/-- The file that a call reads, if it reads one. -/
def wantedFile (args : List String) : String :=
  match CommandLine.read {} (args.map (·.toList)) with
  | .run call => call.config.getD CommandLine.defaultPath
  | _ => CommandLine.defaultPath

end BrickHost

def main (args : List String) : IO UInt32 := do
  let content ← BrickHost.readFile (BrickHost.wantedFile args)
  let report := BrickHost.CommandLine.report args (fun _ => content) ""
  for line in report.output do
    IO.println line
  for line in report.complaints do
    IO.eprintln line
  return UInt32.ofNat report.exit
