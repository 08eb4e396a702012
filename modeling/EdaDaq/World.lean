import EdaDaq.Basic

/-!
# The world around the device

Everything `device.c` does not compute itself comes from a `World`: the global `g_state` and
the signal that clears it, the values the FPGA registers show on successive reads, the data each
module's FIFO delivers, the outcome of every call of the C library, and what each socket
descriptor answers, which includes never answering: a `send` or `recv` to a consumer that has
stopped answering does not return. Each such source is a stream that the code consumes one element per call,
so a statement over every `World` is a statement over every sequence of hardware readings,
every cancellation point and every failure pattern.

The world also keeps the call trace: every call of the hardware library (`SYNC_*`, `CNT_*`,
`DAQ_*`, `RFM_*`, `HRSC_*`), every acquisition and release of a handle, and every call of the two
helpers `device_daq_write_dif` and `device_daq_send_dif`. Handles are numbered in acquisition
order and never reused, so the trace tells every acquisition apart.

The cycle buffer is a region of memory. `buffer` holds the bytes written to it since the last
`DAQ_reset_buffer`, and `mem` what the region holds past them; a reset rewinds the buffer and
leaves the bytes in memory, so a window that reaches past this cycle's bytes reads older ones.
-/

namespace EdaDaq

/-- The FPGA registers the code polls. -/
inductive Reg where
  | fpgaRo | fifoReady | ramfull | dccCmd | pllLck
  deriving DecidableEq, Repr

/-- A call made by the device code, with the arguments and results that matter. -/
inductive Call where
  -- readout (`DAQ_*`, `SYNC_*`, and the two per-slot helpers)
  | resetBuffer
  | writeDif (slot : Nat) (data : List Byte)
  | fifoAck
  | writeBuffer (file : Nat) (data : List Byte)
  | sendDif (slot : Nat) (rc : Int)
  | ramfullExt
  | startAcq
  | stopAcq
  -- counters, FIFOs and board control
  | cntReset
  | cntStart
  | cntStop
  | fifoInit (slot : Nat)
  | fifoArming
  | resetBcid
  | resetFpga
  | resetHr
  | rfmOn (slot : Nat)
  | rfmEnable (slot : Nat)
  | selectCommandDcc
  | enableDccBusy
  | enableDccRamfull
  | selectCommandSoft
  -- slow control (`HRSC_*`)
  | hrscSetBit (hr bit value : Nat)
  | hrscShaperResis (hr : Nat) (value : Word)
  | hrscShaperCapa (hr value : Nat)
  | hrscChipId (hr id : Nat)
  | hrscCopyConf (src dst : Nat)
  | hrscTune (slot : Nat) (mask : List Word) (dac : List (Word × Word × Word)) (gain : List Word)
  | hrscSetConfig (slot : Nat)
  | hrscResetReadRegisters (slot : Nat)
  | hrscReadConfSingl (file : Nat)
  | hrscWriteConf (file slot : Nat)
  -- handles and the C library
  | fopen (file : Nat)
  | fclose (file : Nat)
  | openMem (fd : Int)
  | close (fd : Int)
  | mmapLw (fd : Int)
  | mmapH2f (fd : Int)
  | munmapLw (fd : Int)
  | munmapH2f (fd : Int)
  | socket (fd : Int)
  | inetPton (addr : String)
  | connect (fd : Int) (addr : String) (port : Int) (rc : Int)
  | system (command : String)

/-- What the consumer at the far end of a socket makes of one `send` or `recv` of the device. -/
inductive Answer (α : Type) where
  /-- The call returns `-1`. -/
  | fail
  /-- The call returns with `a`. -/
  | ok (a : α)
  /-- The call never returns: the consumer has stopped answering and the socket blocks. -/
  | block
  deriving DecidableEq, Repr

/-- A socket descriptor as the device sees it: what each successive `send` and `recv` on it
does, and the requests the device made on it. -/
structure Peer where
  /-- `ok k`: `send` takes `k` bytes (at most the request). -/
  sends : Stream' (Answer Nat)
  /-- `ok bs`: `bs` arrive (at most the request). -/
  recvs : Stream' (Answer (List Byte))
  /-- The byte strings handed to `send`, oldest first. -/
  sent : List (List Byte)

/-- A consumer that never stops answering: every `send` and `recv` on its socket returns, with a
result or with `-1`. -/
def Peer.Live (p : Peer) : Prop := ∀ i, p.sends i ≠ .block ∧ p.recvs i ≠ .block

/-- A live consumer stays live after a call. -/
theorem Peer.Live.tail {p : Peer} (h : p.Live) :
    Peer.Live { p with sends := p.sends.tail } ∧ Peer.Live { p with recvs := p.recvs.tail } :=
  ⟨fun i => ⟨(h (i + 1)).1, (h i).2⟩, fun i => ⟨(h i).1, (h (i + 1)).2⟩⟩

/-- The sockets, by descriptor. -/
abbrev Net := Int → Peer

/-- The socket calls of `device_daq_send_dif`, over any model `σ` of the connections; `none` is a
call that never returns. -/
structure Transport (σ : Type) where
  /-- `send(fd, bytes, len, 0)`: the count taken, or `-1`. -/
  send : Int → List Byte → σ → Option (Int × σ)
  /-- `recv(fd, buf, n, 0)`: the count returned (or `-1`) and the bytes stored in `buf`. -/
  recv : Int → Nat → σ → Option (Int × List Byte × σ)

namespace Net

/-- `send` on a descriptor whose answers are scripted by its `Peer`. -/
def send (fd : Int) (bytes : List Byte) (net : Net) : Option (Int × Net) :=
  let p := net fd
  let net' := Function.update net fd { p with sends := p.sends.tail, sent := p.sent ++ [bytes] }
  match p.sends.head with
  | .fail => some (-1, net')
  | .ok k => some (min k bytes.length, net')
  | .block => none

/-- `recv` on a descriptor whose answers are scripted by its `Peer`. -/
def recv (fd : Int) (n : Nat) (net : Net) : Option (Int × List Byte × Net) :=
  let p := net fd
  let net' := Function.update net fd { p with recvs := p.recvs.tail }
  match p.recvs.head with
  | .fail => some (-1, [], net')
  | .ok bs => some ((bs.take n).length, bs.take n, net')
  | .block => none

/-- The scripted sockets as a transport. -/
def transport : Transport Net := ⟨send, recv⟩

@[simp] theorem transport_send : transport.send = send := rfl
@[simp] theorem transport_recv : transport.recv = recv := rfl

end Net

/-- The environment of the device code. -/
structure World where
  /-- `g_state`: `1` while the run may go on. -/
  gState : Bool
  /-- Whether `handle_sigint` or `device_stop_loop` has run before each successive read of
  `g_state`. -/
  signal : Stream' Bool
  /-- The successive values each register shows. -/
  regs : Reg → Stream' Word
  /-- What successive calls of `device_daq_write_dif` find in the FIFO. -/
  fifo : Stream' (List Byte)
  /-- The results of successive fallible calls of the C and hardware libraries. -/
  status : Stream' Int
  /-- The tables successive `read_th_offset`, `read_pa_gain` and `read_mask` calls load. -/
  tables : Stream' (Nat → Word)
  /-- The next handle the C library hands out. -/
  fresh : Nat
  /-- The bytes written to the DAQ cycle buffer since `DAQ_reset_buffer`. -/
  buffer : List Byte
  /-- What the buffer's memory holds past `buffer`: the bytes earlier cycles left there. -/
  mem : Nat → Byte
  net : Net
  calls : List Call

namespace World

/-- The buffer's memory at each offset: this cycle's bytes, then what earlier cycles left. -/
def memory (w : World) (j : Nat) : Byte := w.buffer.getD j (w.mem j)

/-- A read of `g_state`: a signal that has arrived since the last read clears it for good. -/
def pollGState (w : World) : Bool × World :=
  let g := w.gState && !w.signal.head
  (g, { w with gState := g, signal := w.signal.tail })

/-- A read of a register. -/
def read (r : Reg) (w : World) : Word × World :=
  ((w.regs r).head, { w with regs := Function.update w.regs r (w.regs r).tail })

/-- A call recorded in the trace. -/
def call (c : Call) (w : World) : World := { w with calls := w.calls ++ [c] }

/-- The result of a fallible library call. -/
def result (w : World) : Int × World := (w.status.head, { w with status := w.status.tail })

/-- A handle request (`open`, `socket`, `fopen`): a fresh handle, or `none` when the call fails. -/
def grant (w : World) : Option Nat × World :=
  if 0 ≤ w.status.head then (some w.fresh, { w with status := w.status.tail, fresh := w.fresh + 1 })
  else (none, { w with status := w.status.tail })

@[simp] theorem call_calls (c : Call) (w : World) : (w.call c).calls = w.calls ++ [c] := rfl
@[simp] theorem call_net (c : Call) (w : World) : (w.call c).net = w.net := rfl
@[simp] theorem call_buffer (c : Call) (w : World) : (w.call c).buffer = w.buffer := rfl
@[simp] theorem call_memory (c : Call) (w : World) : (w.call c).memory = w.memory := rfl
@[simp] theorem call_status (c : Call) (w : World) : (w.call c).status = w.status := rfl
@[simp] theorem call_regs (c : Call) (w : World) : (w.call c).regs = w.regs := rfl
@[simp] theorem call_fresh (c : Call) (w : World) : (w.call c).fresh = w.fresh := rfl
@[simp] theorem read_fresh (r : Reg) (w : World) : (w.read r).2.fresh = w.fresh := rfl
@[simp] theorem pollGState_calls (w : World) : w.pollGState.2.calls = w.calls := rfl
@[simp] theorem pollGState_net (w : World) : w.pollGState.2.net = w.net := rfl
@[simp] theorem pollGState_buffer (w : World) : w.pollGState.2.buffer = w.buffer := rfl
@[simp] theorem read_calls (r : Reg) (w : World) : (w.read r).2.calls = w.calls := rfl
@[simp] theorem read_net (r : Reg) (w : World) : (w.read r).2.net = w.net := rfl
@[simp] theorem read_buffer (r : Reg) (w : World) : (w.read r).2.buffer = w.buffer := rfl
@[simp] theorem pollGState_regs (w : World) : w.pollGState.2.regs = w.regs := rfl
@[simp] theorem read_regs_self (r : Reg) (w : World) : (w.read r).2.regs r = (w.regs r).tail :=
  Function.update_same ..
@[simp] theorem result_calls (w : World) : w.result.2.calls = w.calls := rfl
@[simp] theorem result_fresh (w : World) : w.result.2.fresh = w.fresh := rfl

@[simp] theorem grant_calls (w : World) : w.grant.2.calls = w.calls := by
  unfold grant; split <;> rfl

/-- A granted request hands out the next handle and consumes one result. -/
theorem grant_some {w v : World} {f : Nat} (h : w.grant = (some f, v)) :
    f = w.fresh ∧ v.calls = w.calls ∧ v.status = w.status.tail := by
  unfold grant at h
  split_ifs at h <;> cases h
  exact ⟨rfl, rfl, rfl⟩

/-- Handles are handed out in increasing order. -/
theorem grant_some_fresh {w v : World} {f : Nat} (h : w.grant = (some f, v)) :
    v.fresh = w.fresh + 1 := by
  unfold grant at h
  split_ifs at h <;> cases h
  rfl

/-- A request keeps the trace and never hands a handle out twice. -/
theorem grant_le {w v : World} {h : Option Nat} (hg : w.grant = (h, v)) :
    w.fresh ≤ v.fresh ∧ v.calls = w.calls := by
  unfold grant at hg
  split_ifs at hg <;> cases hg <;> exact ⟨by simp, rfl⟩

/-- A refused request: the result was negative. -/
theorem grant_none {w v : World} (h : w.grant = (none, v)) : w.status.head < 0 := by
  unfold grant at h
  split_ifs at h with hg
  · cases h
  · exact lt_of_not_le hg

/-- `w'` is `w` after calls that all pass the test `p`. -/
def Appends (p : Call → Bool) (w w' : World) : Prop :=
  ∃ new, w'.calls = w.calls ++ new ∧ ∀ c ∈ new, p c = true

section Appends

variable {p : Call → Bool} {w w' w'' : World}

theorem Appends.of_eq (h : w'.calls = w.calls) : w.Appends p w' :=
  ⟨[], by rw [h, List.append_nil], fun _ h => absurd h (List.not_mem_nil _)⟩

theorem Appends.trans (h : w.Appends p w') (h' : w'.Appends p w'') : w.Appends p w'' := by
  obtain ⟨new, hc, hp⟩ := h
  obtain ⟨new', hc', hp'⟩ := h'
  refine ⟨new ++ new', by rw [hc', hc, List.append_assoc], fun c hm => ?_⟩
  rcases List.mem_append.mp hm with hm | hm
  exacts [hp c hm, hp' c hm]

theorem Appends.call {c : Call} (hc : p c = true) : w.Appends p (w.call c) :=
  ⟨[c], rfl, fun _ hm => by rw [List.mem_singleton.mp hm]; exact hc⟩

theorem Appends.mono {q : Call → Bool} (h : w.Appends p w') (hpq : ∀ c, p c = true → q c = true) :
    w.Appends q w' :=
  let ⟨new, hc, hn⟩ := h
  ⟨new, hc, fun c hm => hpq c (hn c hm)⟩

end Appends

/-- Once `g_state` reads `0` it reads `0` again. -/
theorem pollGState_of_cleared {w : World} (h : w.gState = false) :
    w.pollGState.1 = false ∧ w.pollGState.2.gState = false := by
  simp [pollGState, h]

end World

end EdaDaq
