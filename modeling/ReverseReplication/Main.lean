import ReverseReplication.Program
import ReverseReplication.World
import Std.Time.DateTime
import Std.Time.DateTime.PlainDateTime
import Std.Time.DateTime.Timestamp
import Std.Time.Zoned.TimeZone

/-!
# The command line

Carries out what the arguments ask for, over managers kept in memory and the files of the machine.
-/

namespace ReverseReplication

/-- Is it the system's error of number `n`? Some calls give the number negated. -/
def isSystemError (n code : UInt32) : Bool := code == n || code == 0 - n

/-- Why the machine could not read a file. -/
def FileError.ofIO : IO.Error → FileError
  | .inappropriateType _ code _ =>
    if isSystemError 20 code then .notADirectory else .isDirectory
  | .invalidArgument _ code _ => if isSystemError 36 code then .nameTooLong else .nulByte
  | _ => .notFound

/-- Reads a file of the machine. -/
def readLocalFile (path : String) : IO (Except FileError Text.Bytes) := do
  try
    return .ok (← IO.FS.readBinFile path).toList
  catch e =>
    return .error (.ofIO e)

/-- Answers a query with managers kept in memory and the files of the machine. Nothing cancels. -/
def answerLocally (q : Query) : StateT Managers IO q.Answer :=
  match q with
  | .cancelled _ => pure false
  | .call c => modifyGet fun m => m.perform c
  | .guarded _ c => some <$> modifyGet fun m => m.perform c
  | .file _ path => return some (← readLocalFile path)

/-- A random token of ten hexadecimal digits. -/
def randomToken : IO String := do
  let bytes ← IO.getRandomBytes 5
  return String.ofList (bytes.toList.flatMap fun b =>
    Text.hexDigits (b.toNat / 16) ++ Text.hexDigits (b.toNat % 16))

/-- The present moment. -/
def now : IO Instant := do
  let timestamp ← Std.Time.Timestamp.now
  let t := (Std.Time.DateTime.ofTimestampWithZone timestamp .UTC).toPlainDateTime
  return {
    year := t.date.year.toInt
    month := t.date.month.val.toNat
    day := t.date.day.val.toNat
    hour := t.time.hour.val.toNat
    minute := t.time.minute.val.toNat
    second := t.time.second.val.toNat
    nanosecond := t.time.nanosecond.val.toNat }

/-- The variables of the process. -/
def environment : IO Environment := do
  match ← readLocalFile "/proc/self/environ" with
  | .error _ => return .empty
  | .ok bytes =>
    return .ofEntries ((((Text.decode? bytes).getD "").toList.splitOn '\x00').map String.ofList)

/-- Executes a complete command. -/
def execute (o : Options) : IO Program.Output := do
  let tokens : Program.Tokens := ⟨← randomToken, ← randomToken, ← randomToken⟩
  let startedAt ← now
  let managers := Managers.fresh (some o.location) startedAt.stamp
  let plan := Program.execute o (← environment) tokens startedAt
  (plan.carryOut answerLocally).run' managers

end ReverseReplication

open ReverseReplication in
/-- Carries out what the arguments ask for. -/
def main (arguments : List String) : IO UInt32 := do
  match Invocation.read arguments with
  | .version =>
    IO.print Program.version
    return 0
  | .usage =>
    IO.eprint Program.usage
    return 2
  | .run o =>
    let output ← execute o
    IO.print output.stdout
    IO.eprint output.stderr
    return output.exitCode.toUInt32
