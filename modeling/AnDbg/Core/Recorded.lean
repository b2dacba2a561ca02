import AnDbg.Core.WorldMap

/-
  A world that records the answers it gives.

  `Recorded κ` answers every call as `κ` does and appends the
  answer to a log, so that which calls an operation made and
  how they went is a statement on the log it leaves.

  Main declarations:
    * `AnDbg.CallReply` and `AnDbg.Recorded`
    * `AnDbg.Recorded.waits`
    * `AnDbg.Recorded.AllSucceed`
    * `AnDbg.Recorded.mapsMemory`, `mapsRegset` and
      `mapsKernel`
-/

------------------------------------------------------------
-- Recording The Answers
------------------------------------------------------------

namespace AnDbg

/-
  The status word that a caller finds after `waitpid` if it
  was zero before: a call that fails leaves it alone.
-/
def statusLeft (answer : Pid × BitVec 32) : BitVec 32 :=
  if answer.1 < 0 then 0 else answer.2

/- What a call answered. -/
inductive CallReply
  | memory (done : Bool)
  | regset (done : Bool)
  | ptrace (done : Bool)
  | waited (wpid : Pid) (status : BitVec 32)
  | killed (ret : Int)
deriving DecidableEq

/- A call that went through. -/
def CallReply.succeeded : CallReply → Bool
| .memory done => done
| .regset done => done
| .ptrace done => done
| .waited wpid _ => decide (0 ≤ wpid)
| .killed ret => ret == 0

/- The outcome of a wait. -/
def CallReply.wait? : CallReply → Option (Pid × BitVec 32)
| .waited wpid status => some (wpid, status)
| .memory _ => none
| .regset _ => none
| .ptrace _ => none
| .killed _ => none

/- A world and the answers it has given, in order. -/
structure Recorded (κ : Type) where
  world : κ
  log : List CallReply

namespace Recorded

variable {κ : Type}

/- A world whose answers are recorded from now on. -/
def start (k : κ) : Recorded κ := ⟨k, []⟩

instance [MemoryControl κ] : MemoryControl (Recorded κ) where
  readMemory pid address buffer k :=
    let answer :=
      MemoryControl.readMemory pid address buffer k.world
    (answer.1, answer.2.1,
      ⟨answer.2.2, k.log ++ [.memory answer.1]⟩)
  writeMemory pid address buffer k :=
    let answer :=
      MemoryControl.writeMemory pid address buffer k.world
    (answer.1, ⟨answer.2, k.log ++ [.memory answer.1]⟩)

instance [Regset κ] : Regset (Recorded κ) where
  getRegset type tid k :=
    let answer := Regset.getRegset type tid k.world
    (answer.1, ⟨answer.2, k.log ++ [.regset answer.1.isSome]⟩)
  setRegset type tid data k :=
    let answer := Regset.setRegset type tid data k.world
    (answer.1, ⟨answer.2, k.log ++ [.regset answer.1]⟩)

instance [Kernel κ] : Kernel (Recorded κ) where
  ptrace request pid k :=
    let answer := Kernel.ptrace request pid k.world
    (answer.1, ⟨answer.2, k.log ++ [.ptrace answer.1]⟩)
  waitpid pid k :=
    let answer := Kernel.waitpid pid k.world
    (answer.1,
      ⟨answer.2,
        k.log ++ [.waited answer.1.1 (statusLeft answer.1)]⟩)
  kill pid signal k :=
    let answer := Kernel.kill pid signal k.world
    (answer.1, ⟨answer.2, k.log ++ [.killed answer.1]⟩)
  getThreadIds pid k :=
    let answer := Kernel.getThreadIds pid k.world
    (answer.1, ⟨answer.2, k.log⟩)
  getProcessState tid k :=
    let answer := Kernel.getProcessState tid k.world
    (answer.1, ⟨answer.2, k.log⟩)
  sleepFor milliseconds k :=
    ⟨Kernel.sleepFor milliseconds k.world, k.log⟩
  errno k := Kernel.errno k.world
  strerror n k := Kernel.strerror n k.world

/- The outcomes of the waits so far. -/
def waits (k : Recorded κ) : List (Pid × BitVec 32) :=
  k.log.filterMap CallReply.wait?

/- Every call so far went through. -/
def AllSucceed (k : Recorded κ) : Prop :=
  ∀ reply ∈ k.log, reply.succeeded = true

instance (k : Recorded κ) : Decidable k.AllSucceed :=
  inferInstanceAs
    (Decidable (∀ reply ∈ k.log, reply.succeeded = true))

/- Every call in a recorded world is one in the world itself. -/
theorem mapsMemory
    [MemoryControl κ] :
    MapsMemory (Recorded.world : Recorded κ → κ) where
  readMemory _ _ _ _ := rfl
  writeMemory _ _ _ _ := rfl

theorem mapsRegset
    [Regset κ] :
    MapsRegset (Recorded.world : Recorded κ → κ) where
  getRegset _ _ _ := rfl
  setRegset _ _ _ _ := rfl

theorem mapsKernel
    [Kernel κ] :
    MapsKernel (Recorded.world : Recorded κ → κ) where
  ptrace _ _ _ := rfl
  waitpid _ _ := rfl
  errno _ := rfl
  strerror _ _ := rfl

end Recorded

end AnDbg

------------------------------------------------------------
-- Waits In The Record
------------------------------------------------------------

namespace AnDbg

namespace Recorded

variable {κ : Type}
variable {k k' : Recorded κ}
variable {tid : Pid}

/- Only a wait adds to the waits. -/
theorem waits_append
    (world : κ)
    (log : List CallReply)
    (reply : CallReply) :
    waits ⟨world, log ++ [reply]⟩ =
      waits ⟨world, log⟩ ++ reply.wait?.toList := by
  unfold waits
  rw [List.filterMap_append]
  cases reply <;> rfl

theorem waits_of_readMemory
    [MemoryControl κ]
    {address : Addr}
    {buffer bytes : List Byte}
    {done : Bool}
    (hRead :
      MemoryControl.readMemory tid address buffer k =
        (done, bytes, k')) :
    k'.waits = k.waits := by
  cases hRead
  exact (waits_append _ k.log _).trans (List.append_nil _)

theorem waits_of_writeMemory
    [MemoryControl κ]
    {address : Addr}
    {buffer : List Byte}
    {done : Bool}
    (hWrite :
      MemoryControl.writeMemory tid address buffer k =
        (done, k')) :
    k'.waits = k.waits := by
  cases hWrite
  exact (waits_append _ k.log _).trans (List.append_nil _)

theorem waits_of_getRegset
    [Regset κ]
    {type : RegisterType}
    {found : Option type.Data}
    (hGet : Regset.getRegset type tid k = (found, k')) :
    k'.waits = k.waits := by
  cases hGet
  exact (waits_append _ k.log _).trans (List.append_nil _)

theorem waits_of_setRegset
    [Regset κ]
    {type : RegisterType}
    {data : type.Data}
    {done : Bool}
    (hSet : Regset.setRegset type tid data k = (done, k')) :
    k'.waits = k.waits := by
  cases hSet
  exact (waits_append _ k.log _).trans (List.append_nil _)

theorem waits_of_ptrace
    [Kernel κ]
    {request : PtraceRequest}
    {done : Bool}
    (hPtrace : Kernel.ptrace request tid k = (done, k')) :
    k'.waits = k.waits := by
  cases hPtrace
  exact (waits_append _ k.log _).trans (List.append_nil _)

theorem waits_of_waitpid
    [Kernel κ]
    {answer : Pid × BitVec 32}
    (hWait : Kernel.waitpid tid k = (answer, k')) :
    k'.waits = k.waits ++ [(answer.1, statusLeft answer)] := by
  cases hWait
  exact waits_append _ k.log _

end Recorded

end AnDbg

------------------------------------------------------------
-- Records Of Success
------------------------------------------------------------

namespace AnDbg

namespace Recorded

variable {κ : Type}
variable {k k' : Recorded κ}
variable {tid : Pid}

theorem allSucceed_append
    {world world' : κ}
    {log : List CallReply}
    {reply : CallReply}
    (hAll : AllSucceed ⟨world', log ++ [reply]⟩) :
    AllSucceed ⟨world, log⟩ ∧ reply.succeeded = true := by
  constructor
  · intro earlier hMem
    exact hAll earlier (List.mem_append_left _ hMem)
  · exact hAll reply
      (List.mem_append_right _ (List.mem_singleton_self reply))

/- A call after which all have succeeded went through. -/
theorem succeeded_of_readMemory
    [MemoryControl κ]
    {address : Addr}
    {buffer bytes : List Byte}
    {done : Bool}
    (hRead :
      MemoryControl.readMemory tid address buffer k =
        (done, bytes, k'))
    (hAll : k'.AllSucceed) :
    k.AllSucceed ∧ done = true := by
  cases hRead
  exact allSucceed_append hAll

theorem succeeded_of_writeMemory
    [MemoryControl κ]
    {address : Addr}
    {buffer : List Byte}
    {done : Bool}
    (hWrite :
      MemoryControl.writeMemory tid address buffer k =
        (done, k'))
    (hAll : k'.AllSucceed) :
    k.AllSucceed ∧ done = true := by
  cases hWrite
  exact allSucceed_append hAll

end Recorded

end AnDbg
