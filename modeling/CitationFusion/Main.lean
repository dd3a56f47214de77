import CitationFusion.Network
import CitationFusion.Start

/-!
# The program

Reads the words it was started with and the configuration file, follows the start, and prints
what it logs. The network it is given has no servers and nobody who listens, so a start gets as
far as its first login and waits in vain for a connection.
-/

open CitationFusion

/-- The content of a file, if there is one to be read. -/
def contentOf (path : String) : IO (Option Bytes) := do
  try
    return some (← IO.FS.readBinFile path).toList
  catch _ =>
    return none

/-- Prints the events that the filter of a start lets through. -/
def printEvents (start : Start) (events : List Event) : IO Unit := do
  for e in events do
    if start.logs e then IO.println (e.line Start.target)

/-- Prints why a start failed. -/
def printFailure (failure : Start.Failure) : IO UInt32 := do
  IO.eprintln ("Error: " ++ failure.text)
  return Start.failureCode.toUInt32

/-- Follows a start to its end. -/
def follow (start : Start) : IO UInt32 := do
  let (ending, scene) := start.launch.follow ⟨0⟩ .empty
  printEvents start scene.events
  match ending with
  | .finished (.ok (.measured sizes)) =>
    IO.println sizes.pretty
    return 0
  | .finished (.ok (.listening _)) => return 0
  | .finished (.error failure) => printFailure failure
  | .cutOff | .overflowed => return Start.failureCode.toUInt32

/-- The program. -/
def main (words : List String) : IO UInt32 := do
  match CommandLine.parse words with
  | .error refusal =>
    if refusal.exitCode == 0 then IO.println CommandLine.usage
    else IO.eprintln CommandLine.usage
    return refusal.exitCode.toUInt32
  | .ok c =>
    match Start.prepare c (← contentOf c.config) with
    | .error failure => printFailure failure
    | .ok start => follow start
