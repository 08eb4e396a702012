import EdaDaq.Device

/-!
# The DIF exchange of one slot

`device_daq_send_dif` pushes one slot's window to its consumer: an 8-byte header carrying the
window's length, a 4-byte acknowledgment, and, for a nonempty window, the payload and a second
acknowledgment. The payload is the `size` bytes of the buffer's memory from `beg`, whatever the
current cycle wrote there. The exchange is written over any `Transport`, so that the same
definition runs against scripted sockets (every sequence of `send` and `recv` outcomes, a silent
consumer included) and against a conforming consumer (`EdaDaq.Session`). A call that never
returns makes the exchange never return: its result is `none`.
-/

namespace EdaDaq

variable {σ : Type}

/-- `ret = recv(sck, buf, 4, 0)` and the test `ret != 4 || strcmp(buf, "ACK") != 0`: whether the
reply is accepted, and `buf` after the call. -/
def recvAck (T : Transport σ) (sck : Int) (buf : List Byte) (net : σ) :
    Option (Bool × List Byte × σ) := do
  let (ret, got, net) ← T.recv sck 4 net
  let buf := got ++ buf.drop got.length
  return (ret == 4 && strEq buf ackLit, buf, net)

/-- `device_daq_send_dif`. A failed header send returns `-1`, a rejected acknowledgment `1`; the
result of the payload send is only logged. -/
def deviceDaqSendDif (T : Transport σ) (ctx : Device) (mem : Nat → Byte) (slot : Nat)
    (net : σ) : Option (Int × σ) := do
  let t := ctx.task slot
  let hdr := difHeader t.size
  let (err, net) ← T.send t.sck hdr net
  if err = -1 then return (err, net) else
  let (ok, buf, net) ← recvAck T t.sck hdr net
  if !ok then return (1, net) else
  if t.size = 0 then return (0, net) else
  let (_, net) ← T.send t.sck (t.payload mem) net
  let (ok, _, net) ← recvAck T t.sck buf net
  if !ok then return (1, net) else return (0, net)

section Paths

variable {T : Transport σ} {ctx : Device} {mem : Nat → Byte} {slot : Nat} {net n1 n2 n3 n4 : σ}
  {e e' : Int} {b b' : List Byte} {ok : Bool}

/-- The exchange of an empty window whose header went out and was acknowledged. -/
theorem deviceDaqSendDif_of_empty
    (hs : T.send (ctx.task slot).sck (difHeader (ctx.task slot).size) net = some (e, n1))
    (he : e ≠ -1)
    (hr : recvAck T (ctx.task slot).sck (difHeader (ctx.task slot).size) n1 = some (true, b, n2))
    (hz : (ctx.task slot).size = 0) :
    deviceDaqSendDif T ctx mem slot net = some (0, n2) := by
  simp only [deviceDaqSendDif, hs, hr, Option.bind_eq_bind, Option.some_bind]
  simp [he, hz]

/-- The exchange of a nonempty window whose header went out and was acknowledged. -/
theorem deviceDaqSendDif_of_payload
    (hs : T.send (ctx.task slot).sck (difHeader (ctx.task slot).size) net = some (e, n1))
    (he : e ≠ -1)
    (hr : recvAck T (ctx.task slot).sck (difHeader (ctx.task slot).size) n1 = some (true, b, n2))
    (hz : (ctx.task slot).size ≠ 0)
    (hp : T.send (ctx.task slot).sck ((ctx.task slot).payload mem) n2 = some (e', n3))
    (hr' : recvAck T (ctx.task slot).sck b n3 = some (ok, b', n4)) :
    deviceDaqSendDif T ctx mem slot net = some (if ok then 0 else 1, n4) := by
  simp only [deviceDaqSendDif, hs, hr, hp, hr', Option.bind_eq_bind, Option.some_bind, if_neg he,
    if_neg hz]
  cases ok <;> rfl

end Paths

/-- The exchange reads nothing of the context but the slot's own entry. -/
theorem deviceDaqSendDif_congr {T : Transport σ} {ctx ctx' : Device} {mem : Nat → Byte}
    {slot : Nat} {net : σ} (h : ctx.task slot = ctx'.task slot) :
    deviceDaqSendDif T ctx mem slot net = deviceDaqSendDif T ctx' mem slot net := by
  simp only [deviceDaqSendDif, h]

/-! ## Against scripted sockets -/

/-- A `recv` answer the code accepts: exactly the four bytes `'A', 'C', 'K', 0`. -/
def acked : Answer (List Byte) → Bool
  | .ok bs => bs.take 4 == ackReply
  | _ => false

/-- A `recv` of an acknowledgment on a scripted socket: it never returns when the consumer is
silent, and is accepted exactly when the answer is `'A', 'C', 'K', 0`, whatever `buf` held. -/
theorem recvAck_net (sck : Int) (buf : List Byte) (net : Net) :
    ∃ buf', recvAck Net.transport sck buf net =
      if (net sck).recvs.head = .block then none
      else some (acked (net sck).recvs.head, buf',
        Function.update net sck { net sck with recvs := (net sck).recvs.tail }) := by
  cases h : (net sck).recvs.head with
  | fail => exact ⟨buf, by simp [recvAck, Net.recv, h, acked]⟩
  | block => exact ⟨[], by simp [recvAck, Net.recv, h]⟩
  | ok bs =>
    refine ⟨bs.take 4 ++ buf.drop (bs.take 4).length, ?_⟩
    simp only [recvAck, Net.transport_recv, Net.recv, h, acked, reduceCtorEq, if_false]
    by_cases hl : (bs.take 4).length = 4
    · simp [hl, strEq_ack, List.take_left' hl]
    · have hack : (bs.take 4 == ackReply) = false :=
        beq_false_of_ne fun heq => hl (by rw [heq]; rfl)
      have h4 : ((bs.take 4).length : Int) ≠ 4 := by exact_mod_cast hl
      simp only [Option.bind_eq_bind, Option.some_bind, beq_false_of_ne h4, Bool.false_and, hack]
      rfl

/-- The exchange of slot `t` with the consumer `p` meets silence: one of the calls it makes, the
header `send`, the first `recv` and, after an accepted reply to a nonempty header, the payload
`send` and the second `recv`, never returns. -/
def Peer.Blocks (p : Peer) (t : Task) : Prop :=
  p.sends.head = .block ∨ p.sends.head ≠ .fail ∧ (p.recvs.head = .block ∨
    acked p.recvs.head ∧ t.size ≠ 0 ∧ (p.sends.tail.head = .block ∨ p.recvs.tail.head = .block))

instance (p : Peer) (t : Task) : Decidable (p.Blocks t) := inferInstanceAs (Decidable (_ ∨ _))

/-- A consumer that keeps answering never makes an exchange block. -/
theorem Peer.Live.not_blocks {p : Peer} (h : p.Live) (t : Task) : ¬ p.Blocks t := by
  obtain ⟨h0s, h0r⟩ := h 0
  obtain ⟨h1s, h1r⟩ := h 1
  rintro (hb | ⟨-, hb | ⟨-, -, hb | hb⟩⟩)
  exacts [h0s hb, h0r hb, h1s hb, h1r hb]

section Scripted

variable (ctx : Device) (mem : Nat → Byte) (slot : Nat) (net : Net)

/-- The exchange on scripted sockets, in one piece. It never returns exactly when it meets
silence. Otherwise it ends in one of three ways, read off the slot's first send answer and its
two `recv` answers: the header send failed; the reply was accepted and the window is nonempty,
so the payload went out too; or the exchange stopped after the reply. Only the slot's peer
changes: it has given the answers the exchange consumed and recorded what was handed to
`send`. -/
theorem deviceDaqSendDif_net :
    let t := ctx.task slot
    let p := net t.sck
    deviceDaqSendDif Net.transport ctx mem slot net =
      if p.Blocks t then none
      else some (if p.sends.head = .fail then -1
          else if acked p.recvs.head ∧ t.size ≠ 0 then (if acked p.recvs.tail.head then 0 else 1)
          else if acked p.recvs.head then 0 else 1,
        Function.update net t.sck
          (if p.sends.head = .fail then
            { p with sends := p.sends.tail, sent := p.sent ++ [difHeader t.size] }
          else if acked p.recvs.head ∧ t.size ≠ 0 then
            { p with sends := p.sends.tail.tail, recvs := p.recvs.tail.tail,
                     sent := p.sent ++ [difHeader t.size, t.payload mem] }
          else { p with sends := p.sends.tail, recvs := p.recvs.tail,
                        sent := p.sent ++ [difHeader t.size] })) := by
  dsimp only
  cases hs : (net (ctx.task slot).sck).sends.head with
  | block => simp [deviceDaqSendDif, Net.send, hs, Peer.Blocks]
  | fail => simp [deviceDaqSendDif, Net.send, hs, Peer.Blocks]
  | ok k =>
    choose b hb using fun buf n => recvAck_net (ctx.task slot).sck buf n
    simp only [deviceDaqSendDif, Net.transport_send, Net.send, hs, Option.bind_eq_bind,
      Option.some_bind, reduceCtorEq, if_false, hb, Function.update_same, Function.update_idem]
    rw [if_neg (by omega)]
    by_cases hr : (net (ctx.task slot).sck).recvs.head = .block
    · simp [hr, hs, Peer.Blocks]
    simp only [if_neg hr, Option.some_bind, Function.update_same, Function.update_idem]
    by_cases ha : acked (net (ctx.task slot).sck).recvs.head = true
    swap
    · simp [ha, hr, hs, Peer.Blocks]
    by_cases hz : (ctx.task slot).size = 0#32
    · simp [ha, hz, hr, hs, Peer.Blocks]
    simp only [ha, hz, Bool.not_true, Bool.false_or, decide_False, Bool.false_eq_true, if_false]
    -- the payload send, then the second acknowledgment
    cases hs2 : (net (ctx.task slot).sck).sends.tail.head <;>
      simp only [hb, Function.update_same, Function.update_idem, Option.some_bind,
        Option.none_bind, reduceCtorEq] <;>
      by_cases hr2 : (net (ctx.task slot).sck).recvs.tail.head = .block <;>
      simp [hr2, hs2, hr, ha, hz, hs, Peer.Blocks, -Stream'.get_tail] <;>
      cases acked (net (ctx.task slot).sck).recvs.tail.head <;> rfl

/-- What the exchange returns, when it returns, and the peer it leaves on the slot's socket; no
other descriptor changes. -/
theorem deviceDaqSendDif_net_some {e : Int} {net' : Net}
    (h : deviceDaqSendDif Net.transport ctx mem slot net = some (e, net')) :
    ¬ (net (ctx.task slot).sck).Blocks (ctx.task slot) ∧
      net' = Function.update net (ctx.task slot).sck (net' (ctx.task slot).sck) := by
  rw [deviceDaqSendDif_net] at h
  by_cases hb : (net (ctx.task slot).sck).Blocks (ctx.task slot)
  · rw [if_pos hb] at h
    cases h
  · rw [if_neg hb] at h
    cases h
    simp [hb]

theorem deviceDaqSendDif_net_other {e : Int} {net' : Net}
    (h : deviceDaqSendDif Net.transport ctx mem slot net = some (e, net')) {fd : Int}
    (hfd : fd ≠ (ctx.task slot).sck) : net' fd = net fd := by
  rw [(deviceDaqSendDif_net_some ctx mem slot net h).2]
  exact Function.update_noteq hfd _ _

/-- The exchange neither reads nor changes any descriptor but the slot's socket. -/
theorem deviceDaqSendDif_update {fd : Int} (h : fd ≠ (ctx.task slot).sck) (p : Peer) :
    deviceDaqSendDif Net.transport ctx mem slot (Function.update net fd p) =
      (deviceDaqSendDif Net.transport ctx mem slot net).map
        fun r => (r.1, Function.update r.2 fd p) := by
  have hs : Function.update net fd p (ctx.task slot).sck = net (ctx.task slot).sck :=
    Function.update_noteq h.symm _ _
  rw [deviceDaqSendDif_net, deviceDaqSendDif_net]
  simp only [hs]
  by_cases hb : (net (ctx.task slot).sck).Blocks (ctx.task slot)
  · rw [if_pos hb, if_pos hb]
    rfl
  · rw [if_neg hb, if_neg hb, Option.map_some', Function.update_comm h]

/-- With a consumer that keeps answering, the exchange returns, and the consumer keeps
answering. -/
theorem deviceDaqSendDif_live (h : (net (ctx.task slot).sck).Live) :
    ∃ e net', deviceDaqSendDif Net.transport ctx mem slot net = some (e, net') ∧
      (net' (ctx.task slot).sck).Live := by
  rw [deviceDaqSendDif_net, if_neg (h.not_blocks _)]
  refine ⟨_, _, rfl, ?_⟩
  rw [Function.update_same]
  refine ite_induction (fun _ i => ⟨(h (i + 1)).1, (h i).2⟩)
    fun _ => ite_induction (fun _ i => ⟨(h (i + 2)).1, (h (i + 2)).2⟩)
      fun _ i => ⟨(h (i + 1)).1, (h (i + 1)).2⟩

/-- Scripted sockets on which every `send` takes `k` bytes and every `recv` brings the
acknowledgment. -/
def ackingNet (k : Nat) : Net := fun _ => ⟨fun _ => .ok k, fun _ => .ok ackReply, []⟩

theorem ackingNet_live (k : Nat) (fd : Int) : (ackingNet k fd).Live := fun _ => ⟨nofun, nofun⟩

/-- For a window shorter than `2 ^ 32` bytes, the exchange returns unless a call it makes finds
the consumer silent. When it returns, the device has handed to `send` on the slot's socket the
header `'H', 'D', 'R', 0` and the little-endian length, and then the window itself exactly when
the header send did not fail, the first reply was accepted and the window is nonempty; no other
descriptor has seen anything. -/
theorem deviceDaqSendDif_sends (h : (ctx.task slot).Streamable) :
    let t := ctx.task slot
    let p := net t.sck
    ((∃ r, deviceDaqSendDif Net.transport ctx mem slot net = some r) ↔
      p.sends.head ≠ .block ∧ (p.sends.head ≠ .fail → p.recvs.head ≠ .block ∧
        (acked p.recvs.head → 0 < t.«end» - t.beg →
          p.sends.tail.head ≠ .block ∧ p.recvs.tail.head ≠ .block))) ∧
    ∀ e net', deviceDaqSendDif Net.transport ctx mem slot net = some (e, net') →
      (net' t.sck).sent = p.sent ++ ([72, 68, 82, 0] ++ le32 t.size) ::
          (if p.sends.head ≠ .fail ∧ acked p.recvs.head ∧ 0 < t.«end» - t.beg then
            [t.window mem] else []) ∧
        ofLe32 (le32 t.size) = t.«end» - t.beg ∧
        ∀ fd, fd ≠ t.sck → net' fd = net fd := by
  have hsize := Task.toNat_size h
  have hz : (ctx.task slot).size = 0 ↔ (ctx.task slot).«end» - (ctx.task slot).beg = 0 := by
    rw [BitVec.toNat_eq, hsize]; rfl
  refine ⟨?_, fun e net' he => ⟨?_, by rw [ofLe32_le32, hsize],
    fun fd hfd => deviceDaqSendDif_net_other ctx mem slot net he hfd⟩⟩
  · -- it returns exactly when it meets no silence
    have hpos : (ctx.task slot).size ≠ 0 ↔ 0 < (ctx.task slot).«end» - (ctx.task slot).beg := by
      rw [Ne, hz]; omega
    rw [deviceDaqSendDif_net]
    by_cases hb : (net (ctx.task slot).sck).Blocks (ctx.task slot)
    · simp only [hb, if_true, reduceCtorEq, exists_false, false_iff]
      rintro ⟨h0, h1⟩
      rcases hb with hb | ⟨hf, hb | ⟨ha, hl, hb | hb⟩⟩
      exacts [h0 hb, (h1 hf).1 hb, ((h1 hf).2 ha (hpos.mp hl)).1 hb,
        ((h1 hf).2 ha (hpos.mp hl)).2 hb]
    · simp only [hb, if_false, Option.some.injEq, exists_eq', true_iff]
      refine ⟨fun h => hb (Or.inl h), fun hf => ⟨fun h => hb (Or.inr ⟨hf, Or.inl h⟩), fun ha hl =>
        ⟨fun h => hb (Or.inr ⟨hf, Or.inr ⟨ha, hpos.mpr hl, Or.inl h⟩⟩),
          fun h => hb (Or.inr ⟨hf, Or.inr ⟨ha, hpos.mpr hl, Or.inr h⟩⟩)⟩⟩⟩
  · obtain ⟨hb, -⟩ := deviceDaqSendDif_net_some ctx mem slot net he
    rw [deviceDaqSendDif_net, if_neg hb] at he
    cases he
    rw [Function.update_same, Task.payload_eq_window h]
    split_ifs <;> simp_all [difHeader, Nat.pos_iff_ne_zero]

/-- Two adjacent windows `[0, 10)` and `[10, 15)` of one cycle buffer. -/
def twoWindows : Device :=
  (Device.blank.setTask 0 { Task.blank with sck := 3, «end» := 10 }).setTask 1
    { Task.blank with sck := 4, beg := 10, «end» := 15 }

theorem deviceDaqSendDif_sends_second_window :
    ∃ e net', deviceDaqSendDif Net.transport twoWindows (fun j => BitVec.ofNat 8 j) 1
        (ackingNet 15) = some (e, net') ∧
      (net' 4).sent = [[72, 68, 82, 0, 5, 0, 0, 0], [10, 11, 12, 13, 14]] :=
  ⟨_, _, rfl, ((deviceDaqSendDif_sends twoWindows _ 1 (ackingNet 15) (by decide)).2
    _ _ rfl).1.trans (by decide)⟩

end Scripted

end EdaDaq
