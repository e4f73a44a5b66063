import Chip8.Proofs.Step

/-!
# Fresh machines

A fresh machine holds the shapes of the digits and the program, and everything
else is at rest.

- `Memory.cell_fresh`: every byte of a fresh memory.
- `Machine.fresh`, `Machine.ofProgram?_fits`, `Machine.ofProgram?_tooLarge`: a
  program that fits makes a machine, any other is refused.
- `Machine.word_fresh`, `Machine.step_fresh`: the first step of a program.
-/

namespace Chip8

namespace Memory

/-- A fresh memory around a program that fits. -/
def fresh (program : List UInt8) : Memory :=
  (blank.overlay glyphBase glyphs).overlay programBase program

/-- A program that fits is put into a fresh memory. -/
theorem ofProgram?_fits {program : List UInt8} (h : program.length ≤ programRoom) :
    ofProgram? program = .ok (fresh program) :=
  if_neg (Nat.not_lt.2 h)

theorem ofProgram?_tooLarge {program : List UInt8} (h : programRoom < program.length) :
    ofProgram? program = .error (.programTooLarge program.length) :=
  if_pos h

theorem cell_blank (a : Nat) : blank.cell a = 0 := by
  rw [cell, blank, Vector.getElem?_replicate]
  split <;> rfl

/-- A fresh memory holds the program, the shapes of the digits below it, and zeros. -/
theorem cell_fresh {program : List UInt8} (h : program.length ≤ programRoom) (a : Nat) :
    (fresh program).cell a =
      if programBase ≤ a then program[a - programBase]?.getD 0
      else if glyphBase ≤ a then glyphs[a - glyphBase]?.getD 0
      else 0 := by
  have hprogram : programBase + program.length ≤ 4096 := by
    simp only [programBase, programRoom] at *
    omega
  have hglyphs : glyphBase + glyphs.length ≤ 4096 := by decide
  have hgap : programBase ≤ a → glyphs[a - glyphBase]? = none := by
    intro ha
    have hlength : glyphs.length = 80 := rfl
    refine List.getElem?_eq_none ?_
    simp only [programBase, glyphBase] at *
    omega
  rw [fresh, cell_overlay_fits _ hprogram, cell_overlay_fits _ hglyphs, cell_blank]
  by_cases ha : programBase ≤ a
  · have hbase : glyphBase ≤ a := Nat.le_trans (by decide) ha
    rw [if_pos ha, if_pos ha, if_pos hbase, hgap ha]
    rfl
  · rw [if_neg ha, if_neg ha]

end Memory

namespace Machine

variable {program : List UInt8} {dialect : Dialect} {source : RandomSource} {journal : Journal}

/-- A fresh machine around a program that fits. -/
def fresh (program : List UInt8) (dialect : Dialect) (source : RandomSource) (journal : Journal) :
    Machine where
  memory := .fresh program
  dialect := dialect
  source := source
  journal := journal.push (.created program.length dialect)

theorem ofProgram?_fits (h : program.length ≤ Memory.programRoom) :
    ofProgram? program dialect source journal = .ok (fresh program dialect source journal) := by
  rw [ofProgram?, Memory.ofProgram?_fits h]
  rfl

theorem ofProgram?_tooLarge (h : Memory.programRoom < program.length) :
    ofProgram? program dialect source journal = .error (.programTooLarge program.length) := by
  rw [ofProgram?, Memory.ofProgram?_tooLarge h]
  rfl

/-- A machine that was made around a program is the fresh one, and the program fits. -/
theorem ofProgram?_eq_ok {m : Machine} (h : ofProgram? program dialect source journal = .ok m) :
    program.length ≤ Memory.programRoom ∧ m = fresh program dialect source journal := by
  by_cases hfits : program.length ≤ Memory.programRoom
  · rw [ofProgram?_fits hfits] at h
    exact ⟨hfits, (Except.ok.inj h).symm⟩
  · rw [ofProgram?_tooLarge (Nat.lt_of_not_le hfits)] at h
    cases h

/-- The first instruction word is the program's. -/
theorem word_fresh (h : program.length ≤ Memory.programRoom) :
    (fresh program dialect source journal).word =
      (program[0]?.getD 0).toNat * 256 + (program[1]?.getD 0).toNat := by
  have hcell := Memory.cell_fresh h
  have hfirst : (Memory.fresh program).cell 0x200 = program[0]?.getD 0 := hcell 0x200
  have hsecond : (Memory.fresh program).cell 0x201 = program[1]?.getD 0 := hcell 0x201
  rw [← hfirst, ← hsecond]
  rfl

/-- The first step of a program is made unless the instruction of its first word is refused. -/
theorem step_fresh {w : Nat} (hword : (fresh program dialect source journal).word = w)
    (h : (Instruction.decode ⟨(w : Int)⟩).refusal 0x200
      (fresh program dialect source journal) = none) :
    ∃ m', (step []).on (fresh program dialect source journal) = (.ok (), m') ∧
      Stepped [] (fresh program dialect source journal) m' := by
  have hfetch : Memory.InRange 0x200 2 := by decide
  subst hword
  exact step_made (refusal_eq_none.2 ⟨fun k hk => (nomatch hk), hfetch, h⟩)

end Machine

end Chip8
