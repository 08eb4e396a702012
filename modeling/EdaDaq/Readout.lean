import Mathlib.Data.Stream.Init
import EdaDaq.SendDif

/-!
# The readout loops

`device_loop_dcc` and `device_loop_noise` share one cycle: clear the DAQ buffer, wait for a start
condition, wait for the FIFO, buffer every active slot, acknowledge the FIFO, and send every active
slot's window to its consumer. They differ in the start condition, in a call after it, in whether
the cycle buffer is written to the run file, and in a call after the sends; `Trigger` collects the
four. Every `while` that polls a register spins for as long as the register reads `0` and `g_state`
reads `1`, which no bound limits, so the loops take a fuel argument and give `none` when it runs out;
they also give `none` when an exchange never returns.

`device_daq_write_dif` is declared in `device.c` but its body is not among the sources; it is
modelled from the spec.
-/

namespace EdaDaq

/-- `while ((flag() == v) && (g_state == 1)) ;` on register `r`, which is also
`while (flag() == v) { if (g_state == 0) break; }`. -/
def busyWait (r : Reg) (v : Word) : Nat → World → Option World
  | 0, _ => none
  | fuel + 1, w =>
    let (x, w) := w.read r
    if x = v then
      let (run, w) := w.pollGState
      if run then busyWait r v fuel w else some w
    else some w

/-- A busy wait reads `g_state` and register `r`, `j + 1` times, and changes nothing else. -/
theorem busyWait_frame {r : Reg} {v : Word} {n : Nat} {w w' : World}
    (h : busyWait r v n w = some w') :
    ∃ g sig j, w' =
      { w with gState := g, signal := sig, regs := Function.update w.regs r ((w.regs r).drop (j + 1)) } := by
  induction n generalizing w with
  | zero => cases h
  | succ n ih =>
    simp only [busyWait] at h
    split_ifs at h
    · obtain ⟨g, sig, j, rfl⟩ := ih h
      refine ⟨g, sig, j + 1, ?_⟩
      simp only [World.pollGState, World.read, Function.update_idem, Function.update_same,
        Stream'.drop_tail']
    · cases h; exact ⟨_, _, 0, rfl⟩
    · cases h; exact ⟨_, _, 0, rfl⟩

theorem busyWait_calls {r : Reg} {v : Word} {n : Nat} {w w' : World}
    (h : busyWait r v n w = some w') : w'.calls = w.calls := by
  obtain ⟨_, _, _, rfl⟩ := busyWait_frame h
  rfl

theorem busyWait_net {r : Reg} {v : Word} {n : Nat} {w w' : World}
    (h : busyWait r v n w = some w') : w'.net = w.net := by
  obtain ⟨_, _, _, rfl⟩ := busyWait_frame h
  rfl

/-- Modelled from the spec: `device_daq_write_dif`, whose body is not among the sources. The
hardware interface fills a sub-range of the cycle buffer with the slot's data for this cycle, and
the slot's window is rewritten to that sub-range. -/
def deviceDaqWriteDif (ctx : Device) (slot : Nat) (w : World) : Device × World :=
  let data := w.fifo.head
  (ctx.setTask slot { ctx.task slot with beg := w.buffer.length,
                                         «end» := w.buffer.length + data.length },
   { w with fifo := w.fifo.tail, buffer := w.buffer ++ data,
            calls := w.calls ++ [.writeDif slot data] })

@[simp] theorem deviceDaqWriteDif_calls (ctx : Device) (slot : Nat) (w : World) :
    (deviceDaqWriteDif ctx slot w).2.calls = w.calls ++ [.writeDif slot w.fifo.head] := rfl

@[simp] theorem deviceDaqWriteDif_buffer (ctx : Device) (slot : Nat) (w : World) :
    (deviceDaqWriteDif ctx slot w).2.buffer = w.buffer ++ w.fifo.head := rfl

@[simp] theorem deviceDaqWriteDif_rfmOn (ctx : Device) (slot : Nat) (w : World) :
    (deviceDaqWriteDif ctx slot w).1.rfmOn = ctx.rfmOn := rfl

/-- `DAQ_reset_buffer()`: the cycle buffer is empty again, and its memory keeps what it held. -/
def daqResetBuffer (w : World) : World :=
  { (w.call .resetBuffer) with buffer := [], mem := w.memory }

/-- `DAQ_write_buffer(ctx->daq_file)`: the cycle buffer goes to the run file. -/
def daqWriteBuffer (ctx : Device) (w : World) : World := w.call (.writeBuffer ctx.daqFile w.buffer)

/-- The buffering loop: `device_daq_write_dif` for each active slot in ascending order, with the
test `if (g_state == 0) break;` after each. -/
def bufferSlots : List Nat → Device → World → Device × World
  | [], ctx, w => (ctx, w)
  | i :: is, ctx, w =>
    if rfmActive ctx.rfmOn i then
      let (ctx, w) := deviceDaqWriteDif ctx i w
      let (run, w) := w.pollGState
      if run then bufferSlots is ctx w else (ctx, w)
    else bufferSlots is ctx w

theorem bufferSlots_net (is : List Nat) (ctx : Device) (w : World) :
    (bufferSlots is ctx w).2.net = w.net := by
  induction is generalizing ctx w with
  | nil => rfl
  | cons i is ih =>
    simp only [bufferSlots]
    split_ifs
    · exact ih _ _
    · rfl
    · exact ih _ _

/-- One turn of the sending loop: `err = device_daq_send_dif(ctx, i)` and, when it failed,
`ctx->task[i].rc = err`. -/
def sendSlot (i : Nat) (ctx : Device) (w : World) : Option (Device × World) :=
  (deviceDaqSendDif Net.transport ctx w.memory i w.net).map fun (err, net) =>
    (if err ≠ 0 then ctx.setTask i { ctx.task i with rc := err } else ctx,
     { w with net := net, calls := w.calls ++ [.sendDif i err] })

/-- The sending loop over the active slots, in ascending order. -/
def sendSlots : List Nat → Device → World → Option (Device × World)
  | [], ctx, w => some (ctx, w)
  | i :: is, ctx, w =>
    if rfmActive ctx.rfmOn i then do
      let (ctx, w) ← sendSlot i ctx w
      sendSlots is ctx w
    else sendSlots is ctx w

/-- What distinguishes the two readout loops. -/
structure Trigger where
  /-- The register whose change starts a cycle. -/
  start : Reg
  /-- The call that follows the start condition. -/
  started : World → World
  /-- The run-file write after `SYNC_fifo_ack()`. -/
  persist : Device → World → World
  /-- The call that follows the sends. -/
  rearm : World → World

/-- `device_loop_dcc`: a cycle starts when `SYNC_fpga_ro()` turns nonzero; the cycle buffer is
written to the run file; the external source re-arms the readout. -/
def Trigger.dcc : Trigger := ⟨.fpgaRo, id, daqWriteBuffer, id⟩

/-- `device_loop_noise`: a cycle starts when `SYNC_ramfull()` turns nonzero and is acknowledged
by `SYNC_ramfull_ext()`; nothing is written to the run file; `SYNC_start_acq()` re-arms. -/
def Trigger.noise : Trigger :=
  ⟨.ramfull, World.call .ramfullExt, fun _ w => w, World.call .startAcq⟩

/-- The hooks of a trigger mode leave the sockets alone. -/
structure Trigger.KeepsNet (tr : Trigger) : Prop where
  started_net : ∀ w : World, (tr.started w).net = w.net
  persist_net : ∀ (ctx : Device) (w : World), (tr.persist ctx w).net = w.net
  rearm_net : ∀ w : World, (tr.rearm w).net = w.net

theorem Trigger.dcc_keepsNet : Trigger.dcc.KeepsNet := ⟨fun _ => rfl, fun _ _ => rfl, fun _ => rfl⟩

theorem Trigger.noise_keepsNet : Trigger.noise.KeepsNet :=
  ⟨fun _ => rfl, fun _ _ => rfl, fun _ => rfl⟩

/-- The two waits that open a cycle, each followed by `if (g_state == 0) break;`: `none` while a
wait spins, `some (false, w)` at a `break`, `some (true, w)` when the FIFO is ready. -/
def awaitData (tr : Trigger) (fuel : Nat) (w : World) : Option (Bool × World) :=
  match busyWait tr.start 0 fuel w with
  | none => none
  | some w =>
    let (run, w) := w.pollGState
    if run then (busyWait .fifoReady 0 fuel (tr.started w)).map World.pollGState
    else some (false, w)

/-- The rest of a cycle once the FIFO is ready: buffering, `SYNC_fifo_ack()`, the run-file write,
the sends, the re-arming call, and `ctx->cycle_id++`. -/
def acquire (tr : Trigger) (nb : Nat) (ctx : Device) (w : World) : Option (Device × World) :=
  let (ctx, w) := bufferSlots (List.range nb) ctx w
  let w := tr.persist ctx (w.call .fifoAck)
  (sendSlots (List.range nb) ctx w).map fun (ctx, w) =>
    ({ ctx with cycleId := ctx.cycleId + 1 }, tr.rearm w)

theorem acquire_eq (tr : Trigger) (nb : Nat) (ctx : Device) (w : World) :
    acquire tr nb ctx w =
      (sendSlots (List.range nb) (bufferSlots (List.range nb) ctx w).1
          (tr.persist (bufferSlots (List.range nb) ctx w).1
            ((bufferSlots (List.range nb) ctx w).2.call .fifoAck))).map
        fun s => ({ s.1 with cycleId := s.1.cycleId + 1 }, tr.rearm s.2) := rfl

/-- A cycle that returns: its sends returned, from what buffering and persisting left. -/
theorem acquire_eq_some {tr : Trigger} {nb : Nat} {ctx : Device} {w : World} {s : Device × World}
    (h : acquire tr nb ctx w = some s) :
    ∃ s', sendSlots (List.range nb) (bufferSlots (List.range nb) ctx w).1
        (tr.persist (bufferSlots (List.range nb) ctx w).1
          ((bufferSlots (List.range nb) ctx w).2.call .fifoAck)) = some s' ∧
      s = ({ s'.1 with cycleId := s'.1.cycleId + 1 }, tr.rearm s'.2) := by
  obtain ⟨s', hs', rfl⟩ := Option.map_eq_some'.mp h
  exact ⟨s', hs', rfl⟩

/-- The `while (g_state == 1)` loop of either readout loop, with `nb` slots. -/
def readoutLoop (tr : Trigger) (nb : Nat) : Nat → Device → World → Option (Device × World)
  | 0, _, _ => none
  | fuel + 1, ctx, w =>
    let (run, w) := w.pollGState
    if run then
      match awaitData tr fuel (daqResetBuffer w) with
      | none => none
      | some (false, w) => some (ctx, w)
      | some (true, w) =>
        match acquire tr nb ctx w with
        | none => none
        | some (ctx, w) => readoutLoop tr nb fuel ctx w
    else some (ctx, w)

/-- A turn of the readout loop, with the `match`es written as binds. -/
theorem readoutLoop_succ (tr : Trigger) (nb n : Nat) (ctx : Device) (w : World) :
    readoutLoop tr nb (n + 1) ctx w =
      if w.pollGState.1 then
        (awaitData tr n (daqResetBuffer w.pollGState.2)).bind fun r =>
          if r.1 then (acquire tr nb ctx r.2).bind fun s => readoutLoop tr nb n s.1 s.2
          else some (ctx, r.2)
      else some (ctx, w.pollGState.2) := by
  simp only [readoutLoop]
  split_ifs
  · rcases awaitData tr n (daqResetBuffer w.pollGState.2) with _ | ⟨_ | _, v⟩ <;> try rfl
    dsimp only [Option.some_bind]
    rcases acquire tr nb ctx v with _ | ⟨c, v⟩ <;> rfl
  · rfl

/-- What the waits that open a cycle can do: the start wait ends and `g_state` then reads `0`; or
both waits end, the second after the start hook. -/
theorem awaitData_cases {tr : Trigger} {n : Nat} {w w' : World} {b : Bool}
    (h : awaitData tr n w = some (b, w')) :
    ∃ u, busyWait tr.start 0 n w = some u ∧ ((b = false ∧ w' = u.pollGState.2) ∨
      ∃ v, busyWait .fifoReady 0 n (tr.started u.pollGState.2) = some v ∧ w' = v.pollGState.2) := by
  simp only [awaitData] at h
  split at h
  · cases h
  · rename_i u hu
    refine ⟨u, hu, ?_⟩
    split_ifs at h
    · obtain ⟨v, hv, hw⟩ := Option.map_eq_some'.mp h
      exact .inr ⟨v, hv, (congrArg Prod.snd hw).symm⟩
    · cases h
      exact .inl ⟨rfl, rfl⟩

/-- The waits leave the sockets alone. -/
theorem awaitData_net {tr : Trigger} (htr : tr.KeepsNet) {n : Nat} {w w' : World} {b : Bool}
    (h : awaitData tr n w = some (b, w')) : w'.net = w.net := by
  obtain ⟨u, hu, ⟨-, rfl⟩ | ⟨v, hv, rfl⟩⟩ := awaitData_cases h
  · rw [World.pollGState_net, busyWait_net hu]
  · rw [World.pollGState_net, busyWait_net hv, htr.started_net, World.pollGState_net, busyWait_net hu]

/-- What one turn of a readout loop can do: stop at the test of `g_state`, stop at a `break` of
the waits, or run a cycle and go on. -/
theorem readoutLoop_cases {tr : Trigger} {nb n : Nat} {ctx : Device} {w : World}
    {s : Device × World} (h : readoutLoop tr nb (n + 1) ctx w = some s) :
    s = (ctx, w.pollGState.2) ∨
      (∃ v, awaitData tr n (daqResetBuffer w.pollGState.2) = some (false, v) ∧ s = (ctx, v)) ∨
      ∃ v s', awaitData tr n (daqResetBuffer w.pollGState.2) = some (true, v) ∧
        acquire tr nb ctx v = some s' ∧ readoutLoop tr nb n s'.1 s'.2 = some s := by
  simp only [readoutLoop] at h
  split_ifs at h
  · split at h
    · cases h
    · cases h
      exact .inr (.inl ⟨_, ‹_›, rfl⟩)
    · split at h
      · cases h
      · exact .inr (.inr ⟨_, _, ‹_›, ‹_›, h⟩)
  · cases h
    exact .inl rfl

/-- `device_loop_dcc`. -/
def deviceLoopDcc (fp : Fpga) : Nat → Device → World → Option (Device × World) :=
  readoutLoop .dcc fp.nbRfm

/-- `device_loop_noise`. -/
def deviceLoopNoise (fp : Fpga) : Nat → Device → World → Option (Device × World) :=
  readoutLoop .noise fp.nbRfm

/-- `device_loop`: the loop of the trigger mode; any other mode returns at once. -/
def deviceLoop (fp : Fpga) (fuel : Nat) (ctx : Device) (w : World) : Option (Device × World) :=
  if ctx.trigMode = 0 then deviceLoopDcc fp fuel ctx w
  else if ctx.trigMode = 1 then deviceLoopNoise fp fuel ctx w
  else some (ctx, w)

/-! ## What a readout run touches -/

/-- The calls of the readout loops: the cycle buffer, the FIFO, the run file, the exchanges with
the consumers, and the trigger calls. -/
def Call.isReadout : Call → Bool
  | .resetBuffer | .writeDif .. | .fifoAck | .writeBuffer .. | .sendDif .. | .ramfullExt
  | .startAcq => true
  | _ => false

/-- `s'` is `s` after readout calls only, with the handles the context holds unchanged: `mem_fd`,
the run file and every slot's socket. -/
def ReadoutOnly (s s' : Device × World) : Prop :=
  s.2.Appends Call.isReadout s'.2 ∧ s'.1.memFd = s.1.memFd ∧ s'.1.daqFile = s.1.daqFile ∧
    ∀ i, (s'.1.task i).sck = (s.1.task i).sck

namespace ReadoutOnly

theorem refl (s : Device × World) : ReadoutOnly s s := ⟨.of_eq rfl, rfl, rfl, fun _ => rfl⟩

theorem trans {s s' s'' : Device × World} (h : ReadoutOnly s s') (h' : ReadoutOnly s' s'') :
    ReadoutOnly s s'' :=
  ⟨h.1.trans h'.1, h'.2.1.trans h.2.1, h'.2.2.1.trans h.2.2.1,
    fun i => (h'.2.2.2 i).trans (h.2.2.2 i)⟩

/-- Readout calls with the context left alone. -/
theorem world {ctx : Device} {w w' : World} (h : w.Appends Call.isReadout w') :
    ReadoutOnly (ctx, w) (ctx, w') :=
  ⟨h, rfl, rfl, fun _ => rfl⟩

/-- A slot rewritten with its socket kept. -/
theorem setTask {ctx : Device} {i : Nat} {t : Task} (ht : t.sck = (ctx.task i).sck)
    {w w' : World} (h : w.Appends Call.isReadout w') :
    ReadoutOnly (ctx, w) (ctx.setTask i t, w') := by
  refine ⟨h, rfl, rfl, fun j => ?_⟩
  rw [Device.setTask_task]
  split_ifs with hj
  · rw [hj, ht]
  · rfl

end ReadoutOnly

/-- The hooks of a trigger mode make readout calls only. -/
structure Trigger.ReadoutHooks (tr : Trigger) : Prop where
  started : ∀ w : World, w.Appends Call.isReadout (tr.started w)
  persist : ∀ (ctx : Device) (w : World), w.Appends Call.isReadout (tr.persist ctx w)
  rearm : ∀ w : World, w.Appends Call.isReadout (tr.rearm w)

theorem Trigger.dcc_readoutHooks : Trigger.dcc.ReadoutHooks :=
  ⟨fun _ => .of_eq rfl, fun _ _ => .call rfl, fun _ => .of_eq rfl⟩

theorem Trigger.noise_readoutHooks : Trigger.noise.ReadoutHooks :=
  ⟨fun _ => .call rfl, fun _ _ => .of_eq rfl, fun _ => .call rfl⟩

theorem bufferSlots_readoutOnly (is : List Nat) (ctx : Device) (w : World) :
    ReadoutOnly (ctx, w) (bufferSlots is ctx w) := by
  induction is generalizing ctx w with
  | nil => exact .refl _
  | cons i is ih =>
    have hd : ReadoutOnly (ctx, w) (deviceDaqWriteDif ctx i w) :=
      .setTask (by rfl) ⟨_, rfl, fun _ hm => by rw [List.mem_singleton.mp hm]; rfl⟩
    simp only [bufferSlots]
    split_ifs
    · exact hd.trans ((ReadoutOnly.world (.of_eq rfl)).trans (ih _ _))
    · exact hd.trans (.world (.of_eq rfl))
    · exact ih ctx w

theorem sendSlot_readoutOnly {i : Nat} {ctx : Device} {w : World} {s : Device × World}
    (h : sendSlot i ctx w = some s) : ReadoutOnly (ctx, w) s := by
  obtain ⟨⟨err, net⟩, -, rfl⟩ := Option.map_eq_some'.mp h
  have hc : w.Appends Call.isReadout { w with net := net, calls := w.calls ++ [.sendDif i err] } :=
    ⟨_, rfl, fun _ hm => by rw [List.mem_singleton.mp hm]; rfl⟩
  dsimp only
  split_ifs
  · exact .setTask (by rfl) hc
  · exact .world hc

theorem sendSlots_readoutOnly {is : List Nat} {ctx : Device} {w : World} {s : Device × World}
    (h : sendSlots is ctx w = some s) : ReadoutOnly (ctx, w) s := by
  induction is generalizing ctx w with
  | nil => cases h; exact .refl _
  | cons i is ih =>
    simp only [sendSlots] at h
    split_ifs at h
    · obtain ⟨s', hs', h⟩ := Option.bind_eq_some.mp h
      exact (sendSlot_readoutOnly hs').trans (ih h)
    · exact ih h

section Hooks

variable {tr : Trigger} (htr : tr.ReadoutHooks)
include htr

theorem acquire_readoutOnly {nb : Nat} {ctx : Device} {w : World} {s : Device × World}
    (h : acquire tr nb ctx w = some s) : ReadoutOnly (ctx, w) s := by
  obtain ⟨s', hs', rfl⟩ := acquire_eq_some h
  have hp : ReadoutOnly (bufferSlots (List.range nb) ctx w)
      ((bufferSlots (List.range nb) ctx w).1,
        tr.persist (bufferSlots (List.range nb) ctx w).1
          ((bufferSlots (List.range nb) ctx w).2.call .fifoAck)) :=
    .world ((World.Appends.call rfl).trans (htr.persist _ _))
  exact (bufferSlots_readoutOnly (List.range nb) ctx w).trans
    (hp.trans ((sendSlots_readoutOnly hs').trans ⟨htr.rearm _, rfl, rfl, fun _ => rfl⟩))

theorem awaitData_readoutOnly {n : Nat} {w w' : World} {b : Bool}
    (h : awaitData tr n w = some (b, w')) : w.Appends Call.isReadout w' := by
  obtain ⟨u, hu, ⟨-, rfl⟩ | ⟨v, hv, rfl⟩⟩ := awaitData_cases h
  · exact .of_eq (busyWait_calls hu :)
  · have hu' : w.Appends Call.isReadout u.pollGState.2 := .of_eq (busyWait_calls hu :)
    exact hu'.trans ((htr.started _).trans (.of_eq (busyWait_calls hv :)))

/-- A readout loop makes readout calls only, and keeps `mem_fd`, the run file and every
slot's socket. -/
theorem readoutLoop_readoutOnly (nb n : Nat) {ctx : Device} {w : World} {s : Device × World}
    (h : readoutLoop tr nb n ctx w = some s) : ReadoutOnly (ctx, w) s := by
  induction n generalizing ctx w with
  | zero => cases h
  | succ n ih =>
    have hr : w.Appends Call.isReadout (daqResetBuffer w.pollGState.2) := .call rfl
    rcases readoutLoop_cases h with rfl | ⟨v, hv, rfl⟩ | ⟨v, s', hv, ha, h⟩
    · exact .world (.of_eq rfl)
    · exact .world (hr.trans (awaitData_readoutOnly htr hv))
    · exact (ReadoutOnly.world (hr.trans (awaitData_readoutOnly htr hv))).trans
        ((acquire_readoutOnly htr ha).trans (ih h))

end Hooks

theorem deviceLoop_readoutOnly {fp : Fpga} {n : Nat} {ctx : Device} {w : World}
    {s : Device × World} (h : deviceLoop fp n ctx w = some s) : ReadoutOnly (ctx, w) s := by
  simp only [deviceLoop, deviceLoopDcc, deviceLoopNoise] at h
  split_ifs at h
  · exact readoutLoop_readoutOnly Trigger.dcc_readoutHooks _ n h
  · exact readoutLoop_readoutOnly Trigger.noise_readoutHooks _ n h
  · cases h
    exact .refl _

/-! ## Runs on a two-slot board -/

/-- A board of four slots. -/
def board : Fpga := ⟨4, 8, 4⟩

/-- Every flag set at its first read, one FIFO byte per slot, sockets that take everything and
acknowledge, and a signal that lands before the `n`-th poll of `g_state`. -/
def readyWorld (n : Nat) : World :=
  ⟨true, fun i => i == n, fun _ _ => 1, fun _ => [7], fun _ => 0, fun _ _ => 0, 3, [], fun _ => 0,
    ackingNet 8, []⟩

/-- Slots 0 and 1 switched on. -/
def twoSlots : Device := { Device.blank with rfmOn := 3 }

/-- `g_state` cleared right after slot 0 is buffered: slot 1 is never buffered, yet the cycle is
acknowledged, written to the run file, sent for both slots and counted. -/
theorem deviceLoopDcc_sends_unbuffered_slot :
    (deviceLoopDcc board 3 twoSlots (readyWorld 3)).map (fun s => (s.1.cycleId, s.2.calls)) =
      some (1, [.resetBuffer, .writeDif 0 [7], .fifoAck, .writeBuffer 0 [7], .sendDif 0 0,
        .sendDif 1 0]) := rfl

/-- A full cycle in trigger mode 1: `cycle_id` counts it, and nothing reaches the run file. -/
theorem deviceLoop_noise_skips_run_file :
    (deviceLoop board 3 { twoSlots with trigMode := 1 } (readyWorld 5)).map
        (fun s => (s.1.cycleId, s.2.calls)) =
      some (1, [.resetBuffer, .ramfullExt, .writeDif 0 [7], .writeDif 1 [7], .fifoAck, .sendDif 0 0,
        .sendDif 1 0, .startAcq]) := rfl

end EdaDaq
