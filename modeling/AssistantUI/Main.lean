import AssistantUI.CommandLine.Outcome
import AssistantUI.Service.Routes

/-!
# The program

Runs the command that the arguments make. A command to serve announces its address and then
answers requests on standard input, one a line: the method, the path and the body of a request,
separated by blanks, are answered by a line with the status and the body of the response.
-/

namespace AssistantUI.Program

/-- The settings of the environment. -/
def settings : IO Settings := do
  let mut s := Settings.default
  for v in Variable.all do
    if let some value ← IO.getEnv v.name then s := s.put v.name value
  return s

/-- The content of a file, if it can be read. -/
def content? (file : String) : IO (Option String) := do
  try return some (← IO.FS.readFile file) catch _ => return none

/-- Names and times for new documents, all told apart by a seed. -/
def supply (seed : Nat) : Supply where
  id n := "id-" ++ toString seed ++ "-" ++ toString n
  time n := "t-" ++ toString seed ++ "-" ++ toString n

/-- The request that a line stands for. -/
def request (line : String) : Except Fault Http.Request :=
  let word := fun (s : List Char) => s.takeWhile (· != ' ')
  let rest := fun (s : List Char) => (s.dropWhile (· != ' ')).drop 1
  let s := line.toList
  Http.Request.at .empty (String.ofList (word s)) (String.ofList (word (rest s)))
    (Http.jsonOfBytes (String.ofList (rest (rest s))).toUTF8.toList)

/-- The line that a response, or the lack of one, makes. -/
def response : Except Fault Http.Response → String
  | .ok r => toString r.status ++ " " ++ r.body.value.write .line
  | .error f => "500 " ++ (Json.str f.describe).write .line

/-- Answers requests until there are no more. -/
partial def serve (service : Service Documents) (s : Service.State Documents)
    (input : IO.FS.Stream) : IO Unit := do
  let line ← input.getLine
  unless line.isEmpty do
    let (r, s) := match request line with
      | .ok r => (service.handle r).runIn s
      | .error f => (.error f, s)
    IO.println (response r)
    (← IO.getStdout).flush
    serve service s input

/-- Runs the command that the arguments make, and gives its exit code. -/
def run (args : List String) : IO UInt32 := do
  let settings ← settings
  let contents ← args.mapM fun a => do return (a, ← content? a)
  let o := CommandLine.Outcome.ofArguments settings (fun file => (contents.lookup file).join) args
  IO.print o.output
  for notice in o.notices do IO.eprintln notice
  if let some f := o.fault then IO.eprintln f.describe
  if o.serving.isSome then
    let service : Service Documents := ⟨Documents.storage, settings, supply (← IO.monoMsNow)⟩
    serve service (Service.State.new ∅) (← IO.getStdin)
  return UInt32.ofNat o.exitCode

end AssistantUI.Program

def main (args : List String) : IO UInt32 := AssistantUI.Program.run args
