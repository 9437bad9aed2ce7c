import Karnaugh.CommandLine.Report
import Karnaugh.CommandLine.Usage

set_option autoImplicit false

/-! # The program

Reads the command line, looks at the progress file, runs the command and carries out what its report
says. All decisions are made in `CommandLine.Options.read` and `CommandLine.run`. -/

namespace Karnaugh.CommandLine

open Records (Node Place)

/-- The fault that an error of the operating system stands for. -/
def faultOf : IO.Error → StorageFault
  | .noFileOrDirectory .. => .missing
  | .permissionDenied .. => ⟨.permissionDenied, "Permission denied (os error 13)"⟩
  | .inappropriateType _ code _ => if code = 21 then .folder else .notFolder
  | error => ⟨.other, error.toString⟩

/-- Looks at what is found under a path. -/
def look (path : String) : IO Place := do
  try
    let bytes ← IO.FS.readBinFile path
    match String.fromUTF8? bytes with
    | some content => return { node := some (.text content) }
    | none => return { node := some .binary }
  catch error =>
    match error with
    | .noFileOrDirectory .. => return { node := none }
    | _ => return ⟨none, some (faultOf error), some (faultOf error)⟩

/-- Writes the progress file when a run has changed it; gives the fault that writing met. -/
def keep (path : String) (before after : Place) : IO (Option StorageFault) := do
  match after.node with
  | some (.text content) =>
    if before.node = after.node then return none
    try
      IO.FS.writeFile path content
      return none
    catch error => return some (faultOf error)
  | _ => return none

/-- Runs a command. When the progress file cannot be written after all, the report is the one of a run
    that met this fault. -/
def execute (options : Options) : IO Report := do
  let place ← look options.progressFile
  let report := run options place
  match ← keep options.progressFile place report.place with
  | none => return report
  | some fault => return run options { place with writeFault := some fault }

end Karnaugh.CommandLine

open Karnaugh.CommandLine in
/-- The command-line program. -/
def main (arguments : List String) : IO UInt32 := do
  match Options.read arguments with
  | .error .help =>
    IO.print helpText
    return 0
  | .error .version =>
    IO.print versionText
    return 0
  | .error (.mistake fault) =>
    IO.eprintln fault.message
    return 2
  | .ok options =>
    let report ← execute options
    for line in report.messages do
      IO.eprintln line
    for line in report.output do
      IO.println line
    return report.code.toUInt32
