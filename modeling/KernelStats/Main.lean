import KernelStats.Daemon.Run
import Std.Time

/-!
# The daemon

The command line: it reads the schema file, measures how long scrapes take, prints and sleeps. What it
prints and logs is settled in `KernelStats.Daemon.Run`.
-/

namespace KernelStats.Daemon

def errorCode : IO.Error → Nat
  | .noFileOrDirectory _ code _ | .permissionDenied _ code _ | .inappropriateType _ code _
  | .resourceExhausted _ code _ | .illegalOperation code _ | .otherError code _ => code.toNat
  | _ => 5

def fileAt (path : String) : IO File :=
  try
    let bytes ← IO.FS.readBinFile path
    return .content bytes.toList
  catch e => return .unreadable (errorCode e)

def timeText : IO String := do
  let now := Std.Time.PlainDateTime.ofWallTime (.ofTimestamp (← Std.Time.Timestamp.now) .zero)
  return now.format "uuuu-MM-dd'T'HH:mm:ss'Z'"

def showLog (a : Arguments) (log : Array LogLine) : IO Unit :=
  (shown a.level log).forM fun l => IO.eprintln (l.level.name ++ " " ++ l.text)

def write (text : String) : IO (Option Nat) :=
  try
    let stdout ← IO.getStdout
    stdout.putStr text
    stdout.flush
    return none
  catch e => return some (errorCode e)

def runOnce (a : Arguments) (r : Registry) : IO UInt32 := do
  let before ← IO.monoNanosNow
  let (updates, _) := r.update
  let elapsed := (← IO.monoNanosNow) - before
  let g := r.gathered (fun _ => ⟨elapsed⟩) updates
  showLog a (g.log.push ⟨.info, g.describe⟩)
  let o := print g (← write g.printed)
  showLog a o.log
  return o.exitCode

partial def runForever (a : Arguments) (number : Nat) (r : Registry) : IO UInt32 := do
  let before ← IO.monoNanosNow
  let (updates, r') := r.update
  let elapsed := (← IO.monoNanosNow) - before
  showLog a (scrapeLog number (← timeText) (r.gathered (fun _ => ⟨elapsed⟩) updates))
  for _ in [0:10 * a.interval.toNat] do
    IO.sleep 100
  runForever a (number + 1) r'

def Refusal.text : Refusal → String
  | help => "Usage: kstatd [--config PATH] [--interval SECONDS] [--namespace NAME] [--once] [-v] [-q]"
  | version => programName ++ " " ++ Daemon.version
  | unknown word => "error: unexpected argument '" ++ word ++ "' found"
  | repeated _ => "error: an argument cannot be used multiple times"
  | missingValue _ => "error: a value is required"
  | badInterval text => "error: invalid value '" ++ text ++ "' for '--interval <INTERVAL>'"
  | superfluousValue _ => "error: unexpected value"

def refuse (r : Refusal) : IO UInt32 := do
  if r.exitCode = 0 then IO.println r.text else IO.eprintln r.text
  return r.exitCode

def runWith (a : Arguments) : IO UInt32 := do
  let collector := fun c => MetricCollector.ofCollector Memory.source c builtIn
  let (log, registry) := prepare a (← fileAt a.config) collector #[noKernelLine]
  showLog a log
  match registry with
  | none => return 1
  | some r =>
    if a.once then runOnce a r
    else
      showLog a #[loopStart]
      runForever a 1 r

end KernelStats.Daemon

open KernelStats.Daemon in
def main (words : List String) : IO UInt32 :=
  match Arguments.ofWords words with
  | .error r => refuse r
  | .ok a => runWith a
