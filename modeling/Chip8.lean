import Chip8.Disassembly
import Chip8.Main
import Chip8.Proofs.Failure
import Chip8.Proofs.Rest
import Chip8.Proofs.Calls
import Chip8.Proofs.HeldKeys
import Chip8.Proofs.Decay
import Chip8.Proofs.Drawing
import Chip8.Proofs.SeenKeys
import Chip8.Proofs.Dialects
import Chip8.Proofs.Reading
import Chip8.Proofs.RandomNumbers
import Chip8.Proofs.Display
import Chip8.Proofs.Events
import Chip8.Proofs.Frames
import Chip8.Proofs.Shown
import Chip8.Proofs.Written
import Chip8.Proofs.Building
import Chip8.Proofs.Listing
import Chip8.Proofs.Encoding
import Chip8.Proofs.KeyBinding
import Chip8.Proofs.Numerals
import Chip8.Proofs.Assembly
import Chip8.Proofs.Respelling
import Chip8.Proofs.Arithmetic
import Chip8.Proofs.MemoryReads
import Chip8.Proofs.MemoryWrites
import Chip8.Proofs.Saving
import Chip8.Proofs.Decimals
import Chip8.Proofs.Notices
import Chip8.Proofs.Pacing
import Chip8.Proofs.Sections
