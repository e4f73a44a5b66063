import Chip8.Image
import Chip8.Proofs.Fresh

/-!
# Program images in memory

An image is checked before a machine is built around it, and memory checks once more that it has
room. The two checks agree on every image but the empty one, which only the first refuses.

- `Image.check_eq_ok`: what is known of bytes that were accepted as an image.
- `Memory.initial`: the byte at each address before the first step.
- `Memory.readByte_fresh`: a fresh memory holds these bytes.
- `Image.check_fits`: the checks together, and the memory behind them.
-/

namespace Chip8

namespace Image

variable {name : String} {data : List UInt8}

/-- A program image is not empty, and fits. -/
theorem check_eq_ok {program : List UInt8} (h : check name data = .ok program) :
    program = data ∧ program ≠ [] ∧ program.length ≤ Memory.programRoom := by
  unfold check at h
  split_ifs at h with hempty hlarge
  obtain rfl := Except.ok.inj h
  exact ⟨rfl, fun hnil => hempty (hnil ▸ rfl), Nat.not_lt.1 hlarge⟩

/-- Bytes are refused for being none, or for being too many. -/
theorem check_eq_error {e : ImageError} (h : check name data = .error e) :
    data.length = 0 ∧ e = .empty name ∨
      Memory.programRoom < data.length ∧ e = .tooLarge name data.length := by
  unfold check at h
  split_ifs at h with hempty hlarge
  · obtain rfl := Except.error.inj h
    exact .inl ⟨List.length_eq_zero_iff.2 (List.isEmpty_iff.1 hempty), rfl⟩
  · obtain rfl := Except.error.inj h
    exact .inr ⟨hlarge, rfl⟩

/-- Bytes are accepted as they are, or refused. -/
theorem exists_check :
    (∃ program, check name data = .ok program) ↔
      1 ≤ data.length ∧ data.length ≤ Memory.programRoom := by
  cases hcheck : check name data with
  | ok program =>
    obtain ⟨rfl, hne, hfits⟩ := check_eq_ok hcheck
    exact iff_of_true ⟨_, rfl⟩ ⟨List.length_pos_iff.2 hne, hfits⟩
  | error e =>
    refine iff_of_false (fun ⟨_, h⟩ => (nomatch h)) ?_
    rintro ⟨hsome, hfits⟩
    rcases check_eq_error hcheck with ⟨hnone, -⟩ | ⟨hlarge, -⟩
    · omega
    · omega

end Image

namespace Memory

/-- The byte at an address around a program, before the first step: the program from `0x200` on, the
shapes of the digits from `0x050` on, and zeros. -/
def initial (program : List UInt8) (a : Nat) : UInt8 :=
  if h : 0x200 ≤ a ∧ a < 0x200 + program.length then program[a - 0x200]
  else if 0x050 ≤ a ∧ a < 0x0A0 then glyphs.getD (a - 0x050) 0
  else 0

variable {program : List UInt8}

/-- A fresh memory holds the program, the shapes of the digits and zeros. -/
theorem readByte_fresh (h : program.length ≤ programRoom) {a : Nat} (ha : a < 4096) :
    (fresh program).readByte a = .ok (initial program a) := by
  have hin : InRange a 1 := ⟨by omega, by omega⟩
  have hlength : glyphs.length = 80 := rfl
  have hcell : (fresh program).cell a =
      if 0x200 ≤ a then program[a - 0x200]?.getD 0
      else if 0x050 ≤ a then glyphs[a - 0x050]?.getD 0 else 0 := cell_fresh h a
  rw [readByte_inRange hin, Int.toNat_natCast, hcell, initial]
  refine congrArg Except.ok ?_
  by_cases hprogram : 0x200 ≤ a
  · rw [if_pos hprogram]
    by_cases hend : a < 0x200 + program.length
    · rw [dif_pos ⟨hprogram, hend⟩, List.getElem?_eq_getElem (by omega), Option.getD_some]
    · -- behind the program there are zeros, and the digits are long past
      rw [dif_neg (fun both => hend both.2), if_neg (by omega),
        List.getElem?_eq_none (by omega), Option.getD_none]
  · rw [if_neg hprogram, dif_neg (fun both => hprogram both.1)]
    by_cases hglyphs : 0x050 ≤ a
    · rw [if_pos hglyphs]
      by_cases hend : a < 0x0A0
      · rw [if_pos ⟨hglyphs, hend⟩, List.getD_eq_getElem?_getD]
      · rw [if_neg (fun both => hend both.2), List.getElem?_eq_none (by omega), Option.getD_none]
    · rw [if_neg hglyphs, if_neg (fun both => hglyphs both.1)]

end Memory

namespace Image

/-- **Images are accepted iff they fit, and then lie where programs begin.** Bytes are accepted as
an image, and then unchanged, iff there is one at least and no more than the program region holds.
Each image that is accepted makes a machine. Memory and the machine themselves only refuse too many
bytes; around any others, memory has its size, and the program, the shapes of the digits and zeros
are at their addresses. -/
theorem check_fits (name : String) (p : List UInt8) (dialect : Dialect) (source : RandomSource)
    (journal : Journal) :
    ((∃ q, check name p = .ok q) ↔ 1 ≤ p.length ∧ p.length ≤ 3584) ∧
    (∀ q, check name p = .ok q →
      q = p ∧ ∃ m, Machine.ofProgram? q dialect source journal = .ok m) ∧
    (∀ e, check name p = .error e →
      p.length = 0 ∧ e = .empty name ∨ 3584 < p.length ∧ e = .tooLarge name p.length) ∧
    (3584 < p.length →
      Memory.ofProgram? p = .error (.programTooLarge p.length) ∧
        Machine.ofProgram? p dialect source journal = .error (.programTooLarge p.length)) ∧
    (p.length ≤ 3584 →
      ∃ memory m, Memory.ofProgram? p = .ok memory ∧
        Machine.ofProgram? p dialect source journal = .ok m ∧ m.memory = memory ∧
        memory.cells.toList.length = 4096 ∧
        ∀ a < 4096, memory.readByte (a : Nat) = .ok (Memory.initial p a)) := by
  refine ⟨exists_check, ?_, fun e => check_eq_error, ?_, ?_⟩
  · intro q hq
    obtain ⟨rfl, -, hfits⟩ := check_eq_ok hq
    exact ⟨rfl, _, Machine.ofProgram?_fits hfits⟩
  · intro hlarge
    exact ⟨Memory.ofProgram?_tooLarge hlarge, Machine.ofProgram?_tooLarge hlarge⟩
  · intro hfits
    refine ⟨_, _, Memory.ofProgram?_fits hfits, Machine.ofProgram?_fits hfits, rfl,
      Vector.length_toList .., ?_⟩
    intro a ha
    exact Memory.readByte_fresh hfits ha

/-- As many bytes as there is room for reach the last address and leave the digits alone. One more
is too many for the check and for memory, and without any there is no image, but a memory. -/
theorem check_fits_exactly :
    let p : List UInt8 := List.replicate 3584 0xAB
    (∃ m, Machine.ofProgram? p {} (.cycle #[]) #[] = .ok m ∧
      m.memory.readByte 0xFFF = .ok 0xAB ∧ m.memory.readByte 0x055 = .ok 0x20 ∧
      m.memory.readByte 0x1FF = .ok 0) ∧
    (¬ ∃ q, check memorySource (0xAB :: p) = .ok q) ∧
    Memory.ofProgram? (0xAB :: p) = .error (.programTooLarge 3585) ∧
    (¬ ∃ q, check memorySource [] = .ok q) ∧
    ∃ m, Machine.ofProgram? [] {} (.cycle #[]) #[] = .ok m := by
  intro p
  have hlength : p.length = 3584 := List.length_replicate
  obtain ⟨-, -, -, -, hbuilds⟩ := check_fits memorySource p {} (.cycle #[]) #[]
  obtain ⟨memory, m, -, hm, rfl, -, hread⟩ := hbuilds (Nat.le_of_eq hlength)
  have hlast : Memory.initial p 0xFFF = 0xAB := by
    rw [Memory.initial, dif_pos (by omega)]
    exact List.getElem_replicate _
  have hdigit : Memory.initial p 0x055 = 0x20 := rfl
  have hgap : Memory.initial p 0x1FF = 0 := rfl
  obtain ⟨hlarge, -, -, hrefused, -⟩ := check_fits memorySource (0xAB :: p) {} (.cycle #[]) #[]
  obtain ⟨hempty, -, -, -, hnone⟩ := check_fits memorySource [] {} (.cycle #[]) #[]
  obtain ⟨-, m', -, hm', -⟩ := hnone (by decide)
  refine ⟨⟨m, hm, ?_, ?_, ?_⟩, ?_, ?_, ?_, m', hm'⟩
  · exact (hread 0xFFF (by decide)).trans (congrArg Except.ok hlast)
  · exact (hread 0x055 (by decide)).trans (congrArg Except.ok hdigit)
  · exact (hread 0x1FF (by decide)).trans (congrArg Except.ok hgap)
  · intro h
    have hroom := (hlarge.1 h).2
    rw [List.length_cons] at hroom
    omega
  · have hfault := (hrefused (by rw [List.length_cons]; omega)).1
    rw [hfault, List.length_cons, hlength]
  · intro h
    exact absurd (hempty.1 h).1 (by decide)

end Image

end Chip8
