import EdaDaq.SendDif

/-!
# The DIF session with a conforming consumer

One module's persistent connection is a reliable, in-order byte stream in each direction. At its
far end a conforming consumer reads an 8-byte header, replies `'A', 'C', 'K', 0`, reads the
declared number of payload bytes and, when that number is nonzero, replies again. The consumer
runs as far as the bytes it has allow after each `send` of the device; a lazier consumer only
leaves fewer bytes pending, and every `recv` of the device may return any nonempty prefix of the
pending bytes, chosen by the stream `seg`, so the eager consumer loses no behaviour. A `recv` with
nothing pending waits for the consumer, which a conforming consumer never lets happen.
-/

namespace EdaDaq

/-- Where a conforming consumer is in its cycle. -/
inductive Consumer where
  /-- Waiting for an 8-byte header. -/
  | header
  /-- Header `hdr` read, waiting for the payload it declares. -/
  | payload (hdr : List Byte)

/-- A connection with a conforming consumer at its far end. -/
structure Link where
  /-- Sent by the device, not yet read by the consumer. -/
  up : List Byte
  /-- Sent by the consumer, not yet read by the device. -/
  down : List Byte
  consumer : Consumer
  /-- Every header the consumer decoded, with the payload it then read. -/
  got : List (List Byte × List Byte)
  /-- How many bytes have arrived at each successive `recv` of the device (at least one). -/
  seg : Stream' Nat

namespace Link

/-- One move of the consumer, if it has the bytes it waits for. -/
def step (l : Link) : Option Link :=
  match l.consumer with
  | .header =>
    if 8 ≤ l.up.length then
      some { l with up := l.up.drop 8, down := l.down ++ ackReply, consumer := .payload (l.up.take 8) }
    else none
  | .payload hdr =>
    let n := headerLength hdr
    if n ≤ l.up.length then
      some { l with up := l.up.drop n, down := if n = 0 then l.down else l.down ++ ackReply,
                    consumer := .header, got := l.got ++ [(hdr, l.up.take n)] }
    else none

/-- The consumer moves until it waits for bytes, or for at most `fuel` moves. -/
def serve : Nat → Link → Link
  | 0, l => l
  | fuel + 1, l =>
    match l.step with
    | none => l
    | some l' => serve fuel l'

/-- `send` from the device: every byte goes out, and the consumer reads what it can. -/
def send (bytes : List Byte) (l : Link) : Int × Link :=
  (bytes.length, serve (2 * (l.up.length + bytes.length) + 2) { l with up := l.up ++ bytes })

/-- `recv` on the device side: a nonempty prefix of the pending bytes, at most `n`; with nothing
pending it waits for bytes that the consumer never sends. -/
def recv (n : Nat) (l : Link) : Option (Int × List Byte × Link) :=
  if l.down = [] then none else
  let got := l.down.take (min n (max 1 l.seg.head))
  some (got.length, got, { l with down := l.down.drop got.length, seg := l.seg.tail })

/-- The connection as the transport of `device_daq_send_dif`, whatever the descriptor. -/
def transport : Transport Link := ⟨fun _ bytes l => some (send bytes l), fun _ => recv⟩

/-- Nothing in flight, the consumer waits for a header, and every `recv` of the device finds a
whole acknowledgment delivered. -/
structure Idle (l : Link) : Prop where
  up : l.up = []
  down : l.down = []
  consumer : l.consumer = .header
  whole : ∀ i, 4 ≤ l.seg i

/-! ## The consumer's moves -/

variable {d : List Byte} {g : List (List Byte × List Byte)} {seg : Stream' Nat}

theorem serve_step {l l' : Link} (h : l.step = some l') {n : Nat} (hn : 0 < n) :
    serve n l = serve (n - 1) l' := by
  obtain ⟨n, rfl⟩ : ∃ m, n = m + 1 := ⟨n - 1, by omega⟩
  simp [serve, h]

theorem serve_stop {l : Link} (h : l.step = none) (n : Nat) : serve n l = l := by
  cases n <;> simp [serve, h]

theorem step_header {hdr rest : List Byte} (h : hdr.length = 8) :
    step ⟨hdr ++ rest, d, .header, g, seg⟩ =
      some ⟨rest, d ++ ackReply, .payload hdr, g, seg⟩ := by
  simp [step, h, List.drop_left' h, List.take_left' h]

theorem step_header_short {up : List Byte} (h : up.length < 8) :
    step ⟨up, d, .header, g, seg⟩ = none := by
  simp [step]; omega

theorem step_payload {hdr data rest : List Byte} (h : headerLength hdr = data.length) :
    step ⟨data ++ rest, d, .payload hdr, g, seg⟩ =
      some ⟨rest, if data = [] then d else d ++ ackReply, .header, g ++ [(hdr, data)], seg⟩ := by
  simp [step, h, List.drop_left, List.take_left]

theorem step_payload_short {hdr up : List Byte} (h : up.length < headerLength hdr) :
    step ⟨up, d, .payload hdr, g, seg⟩ = none := by
  simp [step]; omega

/-- A header arriving at a consumer that waits for one. -/
theorem send_header (s : Word) :
    send (difHeader s) ⟨[], d, .header, g, seg⟩ = (8, if s = 0 then
        ⟨[], d ++ ackReply, .header, g ++ [(difHeader s, [])], seg⟩
      else ⟨[], d ++ ackReply, .payload (difHeader s), g, seg⟩) := by
  have h1 : step ⟨difHeader s ++ [], d, .header, g, seg⟩ = _ := step_header (length_difHeader s)
  simp only [List.append_nil] at h1
  simp only [send, List.length_nil, length_difHeader, List.nil_append, Nat.cast_ofNat]
  rw [serve_step h1 (by omega)]
  by_cases hs : s = 0
  · have h2 : step ⟨[] ++ [], d ++ ackReply, .payload (difHeader s), g, seg⟩ = _ :=
      step_payload (by simp [hs])
    simp only [List.append_nil, if_true] at h2
    rw [serve_step h2 (by omega), serve_stop (step_header_short (by simp)), if_pos hs]
  · have hpos : ([] : List Byte).length < headerLength (difHeader s) := by
      rw [List.length_nil, headerLength_difHeader]
      exact Nat.pos_of_ne_zero fun h => hs (BitVec.eq_of_toNat_eq h)
    rw [serve_stop (step_payload_short hpos), if_neg hs]

/-- A declared, nonempty payload arriving at a consumer that waits for it. -/
theorem send_payload {hdr data : List Byte} (h : headerLength hdr = data.length) (hd : data ≠ []) :
    send data ⟨[], d, .payload hdr, g, seg⟩ =
      ((data.length : Int), ⟨[], d ++ ackReply, .header, g ++ [(hdr, data)], seg⟩) := by
  have h1 : step ⟨data ++ [], d, .payload hdr, g, seg⟩ = _ := step_payload h
  simp only [List.append_nil, if_neg hd] at h1
  simp only [send, List.length_nil, List.nil_append, zero_add]
  rw [serve_step h1 (by omega), serve_stop (step_header_short (by simp))]

/-- A whole acknowledgment pending, and a `recv` that finds it delivered. -/
theorem recvAck_ack (sck : Int) (buf : List Byte) (c : Consumer) (h : 4 ≤ seg.head) :
    recvAck transport sck buf ⟨[], ackReply, c, g, seg⟩ =
      some (true, ackReply ++ buf.drop 4, ⟨[], [], c, g, seg.tail⟩) := by
  have : min 4 (max 1 seg.head) = 4 := by omega
  simp [recvAck, transport, recv, this, ackReply, ackLit, strEq]

theorem Idle.tail {l : Link} (hl : l.Idle) : ∀ i, 4 ≤ l.seg.tail i := fun i => hl.whole (i + 1)

end Link

variable {σ : Type}

/-- `device_daq_send_dif` on one slot once per cycle, each cycle with its own context and buffer
memory: the results, and the connection afterwards; `none` when an exchange never returns. -/
def session (T : Transport σ) (slot : Nat) :
    List (Device × (Nat → Byte)) → σ → Option (List Int × σ)
  | [], net => some ([], net)
  | (ctx, mem) :: cycles, net => do
    let (rc, net) ← deviceDaqSendDif T ctx mem slot net
    let (rcs, net) ← session T slot cycles net
    return (rc :: rcs, net)

namespace Link

theorem Idle.next {l : Link} (hl : l.Idle) (g : List (List Byte × List Byte)) (c : Prop)
    [Decidable c] :
    ({ l with got := g, seg := if c then l.seg.tail else l.seg.tail.tail } : Link).Idle :=
  ⟨hl.up, hl.down, hl.consumer, fun i => by split <;> exact hl.whole _⟩

end Link

/-! ## One cycle, then a session -/

/-- The last four bytes of every acknowledgment delivered at once, and a window the code can
stream: the exchange returns `0`, the consumer records the header and the window, and nothing
stays in flight. -/
theorem deviceDaqSendDif_link (ctx : Device) (mem : Nat → Byte) (slot : Nat) (l : Link)
    (hl : l.Idle) (hw : (ctx.task slot).Streamable) :
    deviceDaqSendDif Link.transport ctx mem slot l =
      some (0, { l with got := l.got ++ [(difHeader (ctx.task slot).size, (ctx.task slot).window mem)],
                        seg := if (ctx.task slot).size = 0 then l.seg.tail else l.seg.tail.tail }) := by
  obtain ⟨up, down, c, g, seg⟩ := l
  obtain ⟨rfl, rfl, rfl, hseg⟩ := hl
  have hsize := Task.toNat_size hw
  have e1 : Link.transport.send (ctx.task slot).sck (difHeader (ctx.task slot).size)
      ⟨[], [], .header, g, seg⟩ = some _ := congrArg some (Link.send_header _)
  by_cases hz : (ctx.task slot).size = 0
  · have hw0 : (ctx.task slot).window mem = [] := by
      have : (ctx.task slot).«end» - (ctx.task slot).beg = 0 := by rw [← hsize, hz]; rfl
      simp [Task.window, this]
    rw [if_pos hz] at e1
    rw [deviceDaqSendDif_of_empty e1 (by decide) (Link.recvAck_ack _ _ _ (hseg 0)) hz, if_pos hz]
    simp [hw0]
  · rw [if_neg hz] at e1
    have hlen : ((ctx.task slot).payload mem).length = (ctx.task slot).size.toNat := by
      simp [Task.payload]
    have hne : (ctx.task slot).payload mem ≠ [] := by
      rw [← List.length_pos, hlen, Nat.pos_iff_ne_zero]
      exact fun h => hz (BitVec.eq_of_toNat_eq (by simpa using h))
    have e3 : Link.transport.send (ctx.task slot).sck ((ctx.task slot).payload mem)
        ⟨[], [], .payload (difHeader (ctx.task slot).size), g, seg.tail⟩ = some _ :=
      congrArg some (Link.send_payload (by simp [hlen]) hne)
    rw [deviceDaqSendDif_of_payload e1 (by decide) (Link.recvAck_ack _ _ _ (hseg 0)) hz e3
      (Link.recvAck_ack _ _ _ (hseg 1)), if_neg hz]
    simp [Task.payload_eq_window hw]

/-- When every `recv` of the device finds a whole acknowledgment, the device and the consumer stay
in step over any number of cycles: every exchange returns, with `0`, the consumer decodes exactly
the headers sent, each carrying its cycle's window length, and reads exactly each cycle's
window. -/
theorem session_in_step (slot : Nat) (cycles : List (Device × (Nat → Byte))) (l : Link)
    (hl : l.Idle) (hw : ∀ c ∈ cycles, (c.1.task slot).Streamable) :
    ∃ l', session Link.transport slot cycles l = some (cycles.map (fun _ => 0), l') ∧ l'.Idle ∧
      l'.got = l.got ++ cycles.map
        (fun c => (difHeader (c.1.task slot).size, (c.1.task slot).window c.2)) ∧
      ∀ c ∈ cycles, headerLength (difHeader (c.1.task slot).size) =
        (c.1.task slot).«end» - (c.1.task slot).beg := by
  induction cycles generalizing l with
  | nil => exact ⟨l, rfl, hl, by simp, by simp⟩
  | cons c cycles ih =>
    obtain ⟨ctx, mem⟩ := c
    have hc := hw (ctx, mem) (List.mem_cons_self _ _)
    obtain ⟨l', hs, hidle, hgot, hlen⟩ :=
      ih _ (hl.next (l.got ++ [(difHeader (ctx.task slot).size, (ctx.task slot).window mem)])
        ((ctx.task slot).size = 0))
        (fun c hc => hw c (List.mem_cons_of_mem _ hc))
    refine ⟨l', ?_, hidle, by rw [hgot, List.map_cons, List.append_assoc]; rfl, ?_⟩
    · simp only [session, deviceDaqSendDif_link ctx mem slot l hl hc, Option.bind_eq_bind,
        Option.some_bind, hs]
      rfl
    · intro c hc'
      rcases List.mem_cons.mp hc' with rfl | hc'
      · simp [Task.toNat_size hc]
      · exact hlen c hc'

theorem session_in_step_two_cycles :
    ∃ l', session Link.transport 1 [(twoWindows, fun j => BitVec.ofNat 8 j),
      (twoWindows, fun j => BitVec.ofNat 8 (j + 100))] ⟨[], [], .header, [], fun _ => 4⟩ =
      some ([0, 0], l') :=
  let ⟨l', h, _⟩ := session_in_step 1 _ _ ⟨rfl, rfl, rfl, fun _ => le_refl 4⟩ (by decide)
  ⟨l', h⟩

/-- Acknowledgments delivered three bytes at a time: the first exchange already fails. -/
theorem session_short_reads :
    ¬ ∀ (slot : Nat) (cycles : List (Device × (Nat → Byte))) (l : Link), l.up = [] →
      l.down = [] → l.consumer = .header →
        (session Link.transport slot cycles l).map Prod.fst = some (cycles.map (fun _ => 0)) :=
  fun h => absurd (h 0 [(Device.blank, fun _ => 0)] ⟨[], [], .header, [], fun _ => 3⟩ rfl rfl rfl)
    (by decide)

end EdaDaq
