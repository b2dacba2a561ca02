import AnDbg.Core.SimulatedTarget
import AnDbg.Core.WorldMap

/-
  A simulated target that runs while it is waited for.

  Calls are answered by a simulated target; what happens
  between a resumption and the next stop, and what the wait
  then reports, is given by a function.

  Main declarations:
    * `AnDbg.SteppedTarget`
    * `AnDbg.SteppedTarget.memoryLaws`
-/

------------------------------------------------------------
-- The Target
------------------------------------------------------------

namespace AnDbg

/- A simulated target, and what it does during a wait. -/
structure SteppedTarget where
  target : SimulatedTarget
  runs :
    Pid → SimulatedTarget → (Pid × BitVec 32) × SimulatedTarget

namespace SteppedTarget

/- The memory of the target. -/
def memory (t : SteppedTarget) : Memory :=
  t.target.memory

instance : MemoryControl SteppedTarget where
  readMemory tid address buffer t :=
    let answer :=
      MemoryControl.readMemory tid address buffer t.target
    (answer.1, answer.2.1, { t with target := answer.2.2 })
  writeMemory tid address buffer t :=
    let answer :=
      MemoryControl.writeMemory tid address buffer t.target
    (answer.1, { t with target := answer.2 })

instance : Regset SteppedTarget where
  getRegset type tid t :=
    let answer := Regset.getRegset type tid t.target
    (answer.1, { t with target := answer.2 })
  setRegset type tid data t :=
    let answer := Regset.setRegset type tid data t.target
    (answer.1, { t with target := answer.2 })

instance : Kernel SteppedTarget where
  ptrace request tid t :=
    let answer := Kernel.ptrace request tid t.target
    (answer.1, { t with target := answer.2 })
  waitpid tid t :=
    let answer := t.runs tid t.target
    (answer.1, { t with target := answer.2 })
  kill pid signal t :=
    let answer := Kernel.kill pid signal t.target
    (answer.1, { t with target := answer.2 })
  getThreadIds pid t :=
    let answer := Kernel.getThreadIds pid t.target
    (answer.1, { t with target := answer.2 })
  getProcessState tid t :=
    let answer := Kernel.getProcessState tid t.target
    (answer.1, { t with target := answer.2 })
  sleepFor milliseconds t :=
    { t with target := Kernel.sleepFor milliseconds t.target }
  errno t := Kernel.errno t.target
  strerror n t := Kernel.strerror n t.target

instance : HashOrder SteppedTarget DBRegister where
  first s t := HashOrder.first s t.target
  first_mem s t hNonempty :=
    HashOrder.first_mem s t.target hNonempty

theorem mapsMemory : MapsMemory SteppedTarget.target where
  readMemory _ _ _ _ := rfl
  writeMemory _ _ _ _ := rfl

theorem mapsRegset : MapsRegset SteppedTarget.target where
  getRegset _ _ _ := rfl
  setRegset _ _ _ _ := rfl

/- What is laid down for the target holds of it here too. -/
theorem memoryLaws : MemoryLaws SteppedTarget.memory :=
  mapsMemory.memoryLaws mapsRegset SimulatedTarget.memoryLaws

/-
  A target of one thread whose waits all end the same way
  and during which nothing happens.
-/
def waiting
    (script : List Bool)
    (outcome : Pid × BitVec 32) : SteppedTarget where
  target := .fresh script
  runs _ t := (outcome, t)

end SteppedTarget

end AnDbg
