import Chip8.Launch
import Chip8.Yaml

/-!
# The program

Opens the window that the arguments ask for in a terminal: frames are drawn as
text at the window's pace. A terminal has no key events, so the program ends
when the machine comes to rest, and also when a fault stops it. Configurations
are written in YAML.
-/

namespace Chip8

namespace Terminal

/-- The contents of a file. -/
def readFile (path : String) : IO (Except FileError (List UInt8)) := do
  try
    return .ok (← IO.FS.readBinFile path).toList
  catch
    | .inappropriateType .. => return .error (.isDirectory path)
    | _ => return .error (.notFound path)

/-- A reader that knows the files it is asked for in advance. -/
def readFiles (paths : List String) : IO Launch.Reader := do
  let files ← paths.mapM fun path => return (path, ← readFile path)
  return fun path =>
    match files.find? (·.1 = path) with
    | some (_, result) => result
    | none => .error (.notFound path)

/-- The screen as lines of text. -/
def picture (s : Screen) : String :=
  let rows := (List.range Screen.height).map fun y =>
    ((s.pixels.toList.drop (y * Screen.width)).take Screen.width).map
      fun lit => if lit then '#' else ' '
  String.intercalate "\n" (rows.map String.ofList)

/-- Writes the notices from the `first` on that the level lets through. -/
def writeNotices (level : Level) (m : Machine) (first : Nat) : IO Unit := do
  for notice in m.journal.toList.drop first do
    if level.rank ≤ notice.level.rank then
      IO.eprintln (notice.level.name ++ " " ++ notice.message)

/-- Runs frames until the window's timer stops or the machine rests. -/
partial def play (w : Window) : IO UInt32 := do
  IO.sleep (UInt32.ofNat w.interval)
  let (result, next) := w.timeout
  writeNotices w.config.level next.machine w.machine.journal.size
  if next.machine.screen.pixels != w.machine.screen.pixels then
    IO.println (picture next.machine.screen ++ "\n" ++ next.title ++ "\n" ++ next.status)
  for dialog in next.dialogs do
    IO.eprintln (dialog.title ++ ": " ++ dialog.text)
  match result with
  | .error _ => return 1
  | .ok () =>
    if !next.running then return 1
    else if next.machine.paused then return 0
    else play next

/-- Launches the program. -/
def launch (arguments : List String) : IO UInt32 := do
  match Options.parse arguments with
  | .error exit =>
    IO.print exit.output
    IO.eprint exit.errors
    return UInt32.ofNat exit.code
  | .ok options =>
    let configPaths := match options.config with
      | .value path => [path]
      | _ => []
    let read ← readFiles (Path.normalize options.path :: configPaths)
    let seed ← IO.rand 0 0xffffffff
    match Launch.openWindow read Yaml.parse Keyboard.standard (.seeded seed) options with
    | .error e =>
      IO.eprintln (e.message YamlError.message)
      return 1
    | .ok window =>
      writeNotices window.config.level window.machine 0
      play window

end Terminal

end Chip8

/-- The program's entry. -/
def main (arguments : List String) : IO UInt32 :=
  Chip8.Terminal.launch arguments
