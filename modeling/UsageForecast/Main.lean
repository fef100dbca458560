import UsageForecast.Config.Environment
import UsageForecast.Scalar.Binary
import UsageForecast.Simulation.Daemon

/-!
# The daemon on a console

The first line of the input is a configuration.  Every other line is either a
number of milliseconds, for which the loops of the daemon run, or a request
target, which is answered with its status code and its body.  The console
stands on its own: the cluster that it sees holds nothing, and its clock
starts at the epoch.
-/

namespace UsageForecast

/-- A daemon that is spoken to on a console. -/
abbrev Console := DaemonSimulation Directory Float

namespace Console

/-- Set up the daemon that a configuration describes, with its loops
running. -/
def ofText (text : String) : Except Config.Fault Console := do
  let config : Config Float ← Config.load (.present text) []
  let epoch : Instant := ⟨0, 0⟩
  let daemon :=
    Daemon.inDirectory config epoch ⟨config.checkpointDirectory, .absent⟩
  let console := DaemonSimulation.create daemon epoch ∅
  return if daemon.loops.isSome then console.startLoops else console

/-- The text of an answer: its status code, then its body. -/
def display (answer : Router.Answer) : String :=
  let body :=
    match answer.body with
    | .nothing => ""
    | .data value => value.render
    | .text content => content
  s!"{answer.status} {body}"

/-- What a line of input does, and what is printed for it. -/
def answerLine (console : Console) (line : String) :
    Console × Option String :=
  match line.toNat? with
  | some milliseconds => (console.sleep milliseconds, none)
  | none => (console.tick, some (display (console.daemon.answer line)))

end Console

partial def serve (input output : IO.FS.Stream) (console : Console) :
    IO Unit := do
  let line ← input.getLine
  if line.isEmpty then
    return
  let (next, answer) := console.answerLine line.trimAscii.toString
  if let some text := answer then
    output.putStrLn text
    output.flush
  serve input output next

end UsageForecast

/-- Read a configuration and serve the daemon that it describes. -/
def main : IO UInt32 := do
  let input ← IO.getStdin
  let text ← input.getLine
  match UsageForecast.Console.ofText text with
  | .ok console =>
      UsageForecast.serve input (← IO.getStdout) console
      return 0
  | .error fault =>
      IO.eprintln fault.message
      return 1
