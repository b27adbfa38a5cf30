import UserDirectory.Launch

/-!
# Command line

Runs the service over standard input and output. Each line of the input is a request: a method and
a target with a blank between them. Its reply is written as a status, the headers, an empty line and
the body. Settings come from the process and from a file `.env` in the working directory; the
directories above it are not searched for one. The log goes to the error output, all of it, whatever
`RUST_LOG` says.
-/

namespace UserDirectory.CommandLine

/-- Reads the requests that stand on the input, one a line. -/
partial def readCalls (input : IO.FS.Stream) (calls : List Call) : IO (List Call) := do
  let line ← input.getLine
  if line.isEmpty then return calls.reverse
  match line.trimAscii.toString.splitOn " " with
  | method :: target => readCalls input (⟨method, " ".intercalate target⟩ :: calls)
  | [] => readCalls input calls

/-- The settings file of the working directory, empty if there is none. The directories above it are
not searched. -/
def readFile : IO (List UInt8) := do
  try
    let bytes ← IO.FS.readBinFile ".env"
    return bytes.toList
  catch _ => return []

/-- The variables of the process, as the system lists them. -/
def readEnvironment : IO Environment := do
  try
    let bytes ← IO.FS.readBinFile "/proc/self/environ"
    let entries := (bytes.toList.splitBy fun b _ => b != 0).map (·.filter (· != 0))
    return ⟨entries.filterMap Variable.ofEntry?⟩
  catch _ => return .empty

/-- Writes a reply. -/
def writeReply (r : Reply) : IO Unit := do
  IO.println (String.ofList (Nat.toDigits 10 r.status))
  for (name, value) in r.headers do IO.println (name ++ ": " ++ value)
  IO.println ""
  IO.println r.body

end UserDirectory.CommandLine

open UserDirectory in
/-- Runs the service on all requests of the input. -/
def main : IO UInt32 := do
  let file ← CommandLine.readFile
  let env ← CommandLine.readEnvironment
  let calls ← CommandLine.readCalls (← IO.getStdin) []
  let run := Launch.run ⟨fun _ _ => none, true⟩ env file calls true
  for entry in run.log do IO.eprintln entry.line
  for reply in run.replies do
    match reply with
    | some r => CommandLine.writeReply r
    | none => pure ()
  for line in run.ending.errors do IO.eprintln line
  return (run.ending.exit?.getD 0).toUInt32
