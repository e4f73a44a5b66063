import Chip8.Instruction
import Chip8.Machine

/-!
# Executing an instruction

`Machine.execute` carries out one instruction. It changes the machine's parts
but neither the program counter nor the timers' count: where to go on is its
`Outcome`, which the step evaluates.
-/

namespace Chip8

namespace Machine

/-- Where an instruction wants to go on, or that it wants to stay. -/
structure Outcome where
  counter : Int
  pause : Bool := false
  deriving DecidableEq, Repr

/-- What a `Fault`-checked operation does in an action. -/
def orFault {α : Type} : Except Fault α → Action α
  | .ok a => pure a
  | .error e => throw (.fault e)

/-- What a checked operation does in an action. -/
def orError {α : Type} : Except Error α → Action α
  | .ok a => pure a
  | .error e => throw e

/-- Changes the general registers and the index. -/
def onRegisters (f : Registers → Registers) : Action Unit :=
  modify fun m => { m with registers := f m.registers }

/-- Puts an integer into a register, which has to fit. -/
def store (x : Register) (value : Int) : Action Unit := do
  let rs ← orError ((← get).registers.store x value)
  onRegisters fun _ => rs

/-- Goes to `target`; a jump to itself is a rest. -/
def jumpTo (counter target : Int) : Outcome :=
  if target = counter then ⟨counter, true⟩ else ⟨target, false⟩

/-- Skips the next instruction on a condition. -/
def skipIf (counter : Int) (condition : Bool) : Outcome :=
  ⟨if condition then counter + 4 else counter, false⟩

/-- Carries out the instruction at `counter` while `keys` are held. -/
def execute (i : Instruction) (counter : Int) (keys : List Int) : Action Outcome := do
  let m ← get
  let rs := m.registers
  let stay : Outcome := ⟨counter, false⟩
  match i with
  | .halt => return ⟨counter, true⟩
  | .clear =>
    modify fun m => { m with screen := Screen.dark }
    return stay
  | .ret =>
    let (address, stack) ← orFault m.stack.pop
    modify fun m => { m with stack }
    return ⟨address + 2, false⟩
  | .jump target => return jumpTo counter target.val
  | .call target =>
    let stack ← orFault (m.stack.push counter)
    modify fun m => { m with stack }
    return ⟨target.val, false⟩
  | .skipIfValue x value => return skipIf counter (rs.get x = value)
  | .skipUnlessValue x value => return skipIf counter (rs.get x ≠ value)
  | .skipIfSame x y => return skipIf counter (rs.get x = rs.get y)
  | .skipUnlessSame x y => return skipIf counter (rs.get x ≠ rs.get y)
  | .setValue x value =>
    onRegisters (·.set x value)
    return stay
  | .addValue x value =>
    onRegisters (·.addValue x value.toNat)
    return stay
  | .copy x y =>
    onRegisters (·.copy x y)
    return stay
  | .or x y =>
    onRegisters (·.or x y)
    return stay
  | .and x y =>
    onRegisters (·.and x y)
    return stay
  | .xor x y =>
    onRegisters (·.xor x y)
    return stay
  | .add x y =>
    onRegisters (·.add x y)
    return stay
  | .sub x y =>
    onRegisters (·.sub x y)
    return stay
  | .shiftRight x y =>
    onRegisters (·.shiftRight x y m.dialect.shiftInPlace)
    return stay
  | .subFrom x y =>
    onRegisters (·.subFrom x y)
    return stay
  | .shiftLeft x y =>
    onRegisters (·.shiftLeft x y m.dialect.shiftInPlace)
    return stay
  | .setIndex address =>
    onRegisters fun rs => { rs with index := address.val }
    return stay
  | .jumpFrom base => return jumpTo counter (base.val + (rs.get Register.base).toNat)
  | .random x mask =>
    let (number, source) := m.source.next
    modify fun m => { m with source }
    onRegisters (·.set x (UInt8.ofInt number &&& mask))
    return stay
  | .draw x y rows =>
    let sprite ← orError (m.memory.readBytes rs.index rows.val)
    let (screen, hit) := m.screen.draw (rs.get x).toNat (rs.get y).toNat
      (Byte.toInts sprite)
    modify fun m => { m with screen }
    onRegisters (·.setFlag hit)
    return stay
  | .skipIfHeld x => return skipIf counter (keys.contains ((rs.get x).toNat : Int))
  | .skipUnlessHeld x => return skipIf counter (!keys.contains ((rs.get x).toNat : Int))
  | .getDelay x =>
    store x m.timers.delay
    return stay
  | .awaitKey x =>
    match keys.min? with
    | none => return ⟨counter, true⟩
    | some key =>
      store x key
      return stay
  | .setDelay x =>
    modify fun m => { m with timers := { m.timers with delay := (rs.get x).toNat } }
    return stay
  | .setSound x =>
    modify fun m => { m with timers := { m.timers with sound := (rs.get x).toNat } }
    return stay
  | .addIndex x =>
    onRegisters (·.advanceIndex (rs.get x).toNat)
    return stay
  | .setIndexToDigit x =>
    onRegisters fun rs => { rs with index := Memory.glyphAddress (rs.get x).toNat }
    return stay
  | .storeDecimal x =>
    let memory ← orError (m.memory.storeDecimal rs.index (rs.get x).toNat)
    modify fun m => { m with memory }
    return stay
  | .dump x =>
    let memory ← orError (m.memory.writeBytes rs.index (Byte.toInts (rs.dump x)))
    modify fun m => { m with memory }
    if !m.dialect.keepIndex then onRegisters (·.advanceIndex (x.val + 1))
    return stay
  | .restore x =>
    let values ← orError (m.memory.readBytes rs.index (x.val + 1))
    let loaded ← orError (rs.load values)
    onRegisters fun _ => loaded
    if !m.dialect.keepIndex then onRegisters (·.advanceIndex (x.val + 1))
    return stay
  | .unknown word =>
    modify (·.note (.unknownWord word))
    return stay

end Machine

end Chip8
