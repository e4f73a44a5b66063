import Chip8.CommandLine
import Chip8.Config.Build
import Chip8.Config.Document
import Chip8.Image
import Chip8.Path
import Chip8.Window

/-!
# Launching the program

From the arguments to the open window: the arguments are read, then the
configuration they name, which they may override, then the program image; a
machine is built around it and a window opened on the machine. The first thing
that fails ends the launch.

Files are read through a function, so that all of this is independent of where
they are, and configuration texts are parsed by another.
-/

namespace Chip8

/-- Why no window was opened. -/
inductive LaunchError (ε : Type) where
  | file (cause : FileError)
  | document (cause : DocumentError ε)
  | image (cause : ImageError)
  | build (cause : BuildError)
  | window (cause : WindowError)

variable {ε : Type}

/-- What is said about each cause, given what is said about texts that are not parsed. -/
def LaunchError.message (say : ε → String) : LaunchError ε → String
  | file cause => cause.message
  | document cause => cause.message say
  | image cause => cause.message
  | build (.pacing cause) => cause.message
  | build (.fault cause) => cause.message
  | window (.unknownKey cause) => cause.message
  | window (.pacing cause) => cause.message
  | window (.machine cause) => cause.message

namespace Launch

/-- How files are read. -/
abbrev Reader := String → Except FileError (List UInt8)

/-- A carriage return, with or without a line feed, counts as a line feed. -/
def unifyBreaks : List Char → List Char
  | '\r' :: '\n' :: cs => '\n' :: unifyBreaks cs
  | '\r' :: cs => '\n' :: unifyBreaks cs
  | c :: cs => c :: unifyBreaks cs
  | [] => []

/-- Where there is no carriage return, nothing changes. -/
theorem unifyBreaks_eq_self {cs : List Char} (h : '\r' ∉ cs) : unifyBreaks cs = cs := by
  induction cs with
  | nil => rfl
  | cons c rest ih =>
    obtain ⟨hfirst, hrest⟩ := not_or.1 fun hmem => h (List.mem_cons.2 hmem)
    rw [unifyBreaks, ih hrest]
    · rintro cs rfl
      exact absurd rfl hfirst
    · rintro rfl
      exact hfirst rfl

/-- The text of a file, in UTF-8, with a line feed after each line. -/
def readText (read : Reader) (path : String) : Except FileError String := do
  let data ← read path
  match String.fromUTF8? data.toByteArray with
  | some text => return String.ofList (unifyBreaks text.toList)
  | none => throw (.notText path)

/-- A file with the bytes of a text holds the text, if that has no carriage returns. -/
theorem readText_bytes {read : Reader} {path text : String}
    (hread : read path = .ok text.toByteArray.data.toList) (hbreaks : '\r' ∉ text.toList) :
    readText read path = .ok text := by
  have hbytes : text.toByteArray.data.toList.toByteArray = text.toByteArray := by
    apply ByteArray.ext
    simp
  have hvalid : String.fromUTF8? text.toByteArray = some text := dif_pos text.isValidUTF8
  rw [readText, hread]
  show (pure text.toByteArray.data.toList >>= _) = _
  rw [pure_bind, hbytes, hvalid]
  show Except.ok (String.ofList (unifyBreaks text.toList)) = _
  rw [unifyBreaks_eq_self hbreaks, String.ofList_toList]

/-- The configuration in the file of that name. -/
def readConfig (read : Reader) (parse : Parser ε) (path : String) :
    Except (LaunchError ε) Config := do
  let text ← (readText read path).mapError .file
  (Config.ofText parse text).mapError .document

/-- A configuration with what the options choose. -/
def override (c : Config) (o : Options) : Config :=
  { c with
    fullDialect := o.fullDialect || c.fullDialect
    level := match o.level with
      | .value level => level
      | _ => c.level }

/-- The configuration that the options name, and the default one if they name none. -/
def configure (read : Reader) (parse : Parser ε) (o : Options) :
    Except (LaunchError ε) Config := do
  let c ← match o.config with
    | .value path => if path.isEmpty then pure {} else readConfig read parse path
    | _ => pure {}
  return override c o

/-- The program image at a path, and the notice about it. -/
def readImage (read : Reader) (path : String) :
    Except (LaunchError ε) (List UInt8 × Notice) := do
  let path := Path.normalize path
  let data ← (read path).mapError .file
  let program ← (Image.check path data).mapError .image
  return (program, .loaded path program.length)

/-- The window that the options ask for, with its timer started. -/
def openWindow (read : Reader) (parse : Parser ε) (keyboard : Keyboard) (source : RandomSource)
    (o : Options) : Except (LaunchError ε) Window := do
  let config ← configure read parse o
  let (program, notice) ← readImage read o.path
  let machine ← (config.build program source #[notice]).mapError .build
  let window ← (Window.ofMachine? keyboard machine config).mapError .window
  return window.start

end Launch

end Chip8
