import FeedSieve.Command.Report

/-! The program: it reads what the command names, lets the command do its work, and writes what that
gives. Records go to the standard output, all else to the standard error. -/

namespace FeedSieve

def readFile? (path : String) : IO (Option ByteArray) := do
  try
    return some (← IO.FS.readBinFile path)
  catch _ => return none

/-- Reads what a command needs from outside. -/
def readSurroundings (c : Command) : IO Surroundings := do
  let files ← c.paths.mapM fun path => do return (path, ← readFile? path)
  let input ← if c.readsStandardInput then (← IO.getStdin).readBinToEnd else pure .empty
  return { file? := fun path => (files.lookup path).join, standardInput := input }

def runCommand (c : Command) : IO UInt32 := do
  let report := c.execute (← readSurroundings c)
  for notice in report.notices do
    IO.eprintln ("INFO " ++ notice)
  IO.print report.output
  for tally in report.tally do
    IO.eprintln ("✓ " ++ tally.text)
  for failure in report.failure do
    IO.eprintln (failure.text Json.ReadError.message)
  return report.exitCode.toUInt32

end FeedSieve

def main (args : List String) : IO UInt32 := do
  match FeedSieve.Command.parse? args with
  | some c => FeedSieve.runCommand c
  | none =>
    IO.eprintln "usage: list | check [-c FILE] [-f DECL]... | run [-c FILE] [-f DECL]... [-i FILE] [--explain]"
    return FeedSieve.usageExitCode.toUInt32
