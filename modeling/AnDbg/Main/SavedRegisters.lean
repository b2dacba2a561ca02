import AnDbg.Core.DebuggerCore.RegisterCopies
import AnDbg.Main.Handlers

/-
  What `read_registers` has sent can be sent back.

  A client that returns the object of a reply has the
  registers in it as they were when they were read.  Nothing
  is asked of what happened in between, and the thread may
  be another one, which then has them copied.

  Main declarations:
    * `AnDbg.Main.readRegistersHandler_eq`
    * `AnDbg.Main.registers_restored`
-/

------------------------------------------------------------
-- Saving And Restoring
------------------------------------------------------------

namespace AnDbg

namespace Main

open DebuggerCore RegisterControl

variable {κ : Type}
variable [Regset κ]
variable {lib : Library}
variable {c : DebuggerCore}
variable {file : κ → ThreadRegisters}
variable {gprs fprs : Option (List StdString)}

/- The answer to a request for accepted names. -/
theorem readRegistersHandler_eq
    (hReads : ReadsRegisters c.currentTid file)
    {params : StdString}
    {jsonData : Json}
    (hParse : lib.parse params = .ok jsonData)
    (hGprs :
      DebuggerCore.Asks gprNames
        (fun name => str2gpr name ≠ .invalid)
        (jsonData.field (ascii "GPR")) gprs)
    (hFprs :
      DebuggerCore.Asks fprNames
        (fun name => str2fpr name ≠ .invalid)
        (jsonData.field (ascii "FPR")) fprs)
    (k : κ) :
    ∃ s,
      readRegistersHandler lib params (c, k) =
        some (.ok (.success
          (lib.dump (savedReply (file k) gprs fprs))), s) := by
  have hRead :=
    readRegisters_eq_savedReply hReads lib.dump hGprs hFprs k
  unfold readRegistersHandler parsing
  rw [hParse]
  dsimp only
  generalize readRegisters lib.dump jsonData .null c k = done
    at hRead
  rcases done with ⟨answer, k'⟩
  cases hRead
  exact ⟨_, rfl⟩

/-
  A client reads registers of the current thread, by their
  names or all at once, and later, whatever has happened to
  the debugger and the target, sends the object of the reply
  to the thread that is current then.  The write is a
  success; every register that was asked for has the value
  from when it was read, every other one keeps its value;
  and the first request gets the same reply again.  If all
  registers were asked for, then the whole file is back.
-/
theorem registers_restored
    {file' : κ → ThreadRegisters}
    (lib : Library)
    (params params' text : StdString)
    (jsonData reply request : Json)
    (c c' : DebuggerCore)
    (k k' : κ)
    (s : DebuggerCore × κ)
    (hReads : ReadsRegisters c.currentTid file)
    (hStores : StoresRegisters c'.currentTid file')
    (hParse : lib.parse params = .ok jsonData)
    (hGprs :
      DebuggerCore.Asks gprNames
        (fun name => str2gpr name ≠ .invalid)
        (jsonData.field (ascii "GPR")) gprs)
    (hFprs :
      DebuggerCore.Asks fprNames
        (fun name => str2fpr name ≠ .invalid)
        (jsonData.field (ascii "FPR")) fprs)
    (hText :
      readRegistersHandler lib params (c, k) =
        some (.ok (.success text), s))
    (hReply : lib.parse text = .ok reply)
    (hInverse :
      let sent := savedReply (file k) gprs fprs
      lib.parse (lib.dump sent) = .ok sent)
    (hRequest : lib.parse params' = .ok request)
    (hGprPart :
      request.field (ascii "GPR") =
        reply.field (ascii "GPR"))
    (hFprPart :
      request.field (ascii "FPR") =
        reply.field (ascii "FPR")) :
    ∃ status k'',
      writeRegistersHandler lib params' (c', k') =
          some (.ok status, (c', k'')) ∧
        status.isSuccess = true ∧
        (∀ place,
          (file' k'').value place =
            if place ∈ askedPlaces gprs fprs then
              (file k).value place
            else (file' k').value place) ∧
        (gprs = some gprNames → fprs = some fprNames →
          file' k'' = file k) ∧
        ∃ s',
          readRegistersHandler lib params (c', k'') =
            some (.ok (.success text), s') := by
  -- the text is the reply for the registers as they were
  rcases readRegistersHandler_eq hReads hParse hGprs hFprs k with
    ⟨s₁, hSent⟩
  rw [hText] at hSent
  cases hSent
  rw [hInverse] at hReply
  cases hReply
  -- the fields of the request are those of the reply
  rcases readRegisters_reply hReads lib.dump hGprs hFprs k with
    ⟨-, hGprReply, hFprReply, -⟩
  rw [readRegisters_eq_savedReply hReads lib.dump hGprs hFprs k]
    at hGprReply hFprReply
  have hWritten :=
    writeRegisters_of_reply hStores
      (hGprs.accepts accepts_gprNames)
      (hFprs.accepts accepts_fprNames)
      (hGprPart.trans hGprReply) (hFprPart.trans hFprReply) k'
  rcases hDone : writeRegisters request c' k' with
    ⟨ending, k''⟩
  rw [hDone] at hWritten
  rcases hWritten with ⟨⟨status, hEnding, hSuccess⟩, hValue⟩
  dsimp only at hEnding hValue
  refine ⟨status, k'', ?_, hSuccess, hValue, ?_, ?_⟩
  · unfold writeRegistersHandler parsing
    rw [hRequest]
    dsimp only
    rw [hDone, hEnding]
    rfl
  · rintro rfl rfl
    apply ThreadRegisters.ext_value
    funext place
    rw [hValue, if_pos (mem_askedPlaces_all place)]
  · have hSame :
        savedReply (file' k'') gprs fprs =
          savedReply (file k) gprs fprs := by
      apply savedReply_congr
      intro place hPlace
      rw [hValue, if_pos hPlace]
    rw [← hSame]
    exact readRegistersHandler_eq hStores.toReadsRegisters
      hParse hGprs hFprs k''

/- The library, as far as one general register needs it. -/
def registerLibrary : Library where
  parse text :=
    if text = ascii "\x7b\"GPR\":[\"x1\"]\x7d" then
      .ok (.object
        [(ascii "GPR", .array [.string (ascii "x1")])])
    else if text =
        ascii "\x7b\"GPR\":\x7b\"x1\":\"0x0\"\x7d\x7d" then
      .ok (.object
        [(ascii "GPR",
          .object [(ascii "x1", .string (ascii "0x0"))])])
    else
      .error []
  dump json :=
    match json.field (ascii "GPR") with
    | some (.object [(name, .string value)]) =>
      ascii "\x7b\"GPR\":\x7b\"" ++ name ++ ascii "\":\""
        ++ value ++ ascii "\"\x7d\x7d"
    | _ => []
  castFloat _ := 0
  what _ := []
  castInt _ := 0
  castByte _ := 0
  tryDump _ := .ok []
  whatConversion _ := []

/- The register is read as zero and has five in it later. -/
theorem registers_restored_x1 :
    let c := { DebuggerCore.init with currentTid := 7 }
    let k := ThreadRegisters.cleared
    let k' : ThreadRegisters :=
      { k with gpr := ⟨fun _ => 5, 6, 7, 8⟩ }
    let gprs := some [ascii "x1"]
    let text :=
      ascii "\x7b\"GPR\":\x7b\"x1\":\"0x0\"\x7d\x7d"
    ∃ status k'',
      writeRegistersHandler registerLibrary text (c, k') =
          some (.ok status, (c, k'')) ∧
        status.isSuccess = true ∧
        (∀ place,
          k''.value place =
            if place ∈ askedPlaces gprs none then
              k.value place
            else k'.value place) ∧
        (gprs = some gprNames → none = some fprNames →
          k'' = k) ∧
        ∃ s',
          readRegistersHandler registerLibrary
              (ascii "\x7b\"GPR\":[\"x1\"]\x7d") (c, k'') =
            some (.ok (.success text), s') :=
  registers_restored registerLibrary
    (ascii "\x7b\"GPR\":[\"x1\"]\x7d") _ _
    (.object [(ascii "GPR", .array [.string (ascii "x1")])])
    (.object
      [(ascii "GPR",
        .object [(ascii "x1", .string (ascii "0x0"))])])
    (.object
      [(ascii "GPR",
        .object [(ascii "x1", .string (ascii "0x0"))])])
    { DebuggerCore.init with currentTid := 7 }
    { DebuggerCore.init with currentTid := 7 }
    ThreadRegisters.cleared _ _
    (ThreadRegisters.storesRegisters 7).toReadsRegisters
    (ThreadRegisters.storesRegisters 7) rfl
    (.names [ascii "x1"] (by decide)) .nothing rfl rfl rfl rfl
    rfl rfl

end Main

end AnDbg
