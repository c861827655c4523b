import ServerPower.CommandLine.Execution

/-!
# The program

The command line tool with standard input in place of the manager: first the settings, one
`key = value` a line, then an empty line, then a line for the body of each answer. Requests and log
records go to standard error.
-/

namespace ServerPower.CommandLine

def settingOfLine? (line : String) : Option (String × String) :=
  match line.toList.span (· != '=') with
  | (_, []) => none
  | (name, _ :: value) => some (Text.trim (String.ofList name), String.ofList value)

def lineOfEvent? : Event → Option String
  | .sent _ request => some (request.method ++ " " ++ request.url ++ " " ++ request.data.getD "")
  | .logged ⟨_, .ok text⟩ => some text
  | _ => none

/-- Runs the tool on what standard input holds. Yields the status it ends with. -/
def runProgram (argv : List String) : IO UInt32 := do
  let input ← (← IO.getStdin).readToEnd
  let (settings, answers) := (input.splitOn "\n").span (· != "")
  let answers := (answers.drop 1).map fun body => { content := .reply 200 "OK" body }
  let (ending, events) := run .usual argv
    (Settings.ofFile "oneview" (settings.filterMap settingOfLine?)) { supply := .queue answers }
  for line in events.filterMap lineOfEvent? do
    IO.eprintln line
  match ending with
  | .usage status => return status.toUInt32
  | .exited status output =>
    IO.print output
    return status.toUInt32
  | .failed failure =>
    IO.eprintln failure.text
    return 1

end ServerPower.CommandLine

def main (argv : List String) : IO UInt32 := ServerPower.CommandLine.runProgram argv
