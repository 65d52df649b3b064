import DiagnosticRepair.Console.Command
import DiagnosticRepair.Console.Scene
import DiagnosticRepair.Yaml.Library

open DiagnosticRepair

def sceneDirectory : Location :=
  Path.location [] "/project"

def main (arguments : List String) : IO UInt32 := do
  match arguments.head?.bind fun name => Command.ofName? name.toList with
  | none =>
      (← IO.getStderr).putStrLn "usage: typecheck | tests"
      return 2
  | some command =>
      let input ← IO.FS.Stream.lines (← IO.getStdin)
      let scene := Scene.read sceneDirectory (Text.join ['\n'] (input.toList.map String.toList))
      let result := (command.run Yaml.library scene).1
      match result with
      | .ok lines => IO.print (String.ofList (Screen.lines lines))
      | .error failure =>
          let message := failure.message? Yaml.library Yaml.Trouble.message?
          (← IO.getStderr).putStrLn (String.ofList (message.getD []))
      return UInt32.ofNat (Command.status result)
