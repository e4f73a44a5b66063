import Chip8.Memory

/-!
# Program images

A program image is a sequence of bytes that goes to memory as it is. It has at
least one byte and no more than the program region holds.
-/

namespace Chip8

/-- Why bytes are no program image. The source says where they came from. -/
inductive ImageError where
  | empty (source : String)
  | tooLarge (source : String) (size : Nat)
  deriving DecidableEq, Repr

/-- What is said about each cause. -/
def ImageError.message : ImageError → String
  | empty source => s!"Program image {source} is empty"
  | tooLarge source size =>
    s!"Program image {source} is {size} bytes; at most 3584 bytes fit at 0x200"

namespace Image

/-- Where bytes come from that were not read from a file. -/
def memorySource : String := "<bytes>"

/-- The bytes, if they are a program image. -/
def check (source : String) (data : List UInt8) : Except ImageError (List UInt8) :=
  if data.isEmpty then .error (.empty source)
  else if Memory.programRoom < data.length then .error (.tooLarge source data.length)
  else .ok data

end Image

end Chip8
