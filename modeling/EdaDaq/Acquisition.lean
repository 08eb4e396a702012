import EdaDaq.Cycle

/-!
# What a readout run records

The calls of a readout loop that touch the DAQ side are `device_daq_write_dif`,
`SYNC_fifo_ack()` and `DAQ_write_buffer`. Projected onto them, a run is a list of cycles
(`readoutLoop_cycles`); projected onto its `device_daq_send_dif` calls, it is the active slots in
ascending order, once per cycle. Each cycle buffers some slots, each with the bytes it took from the FIFO,
is acknowledged, and is recorded as its trigger mode records it. Every cycle buffers all the active
slots in ascending order except the last, which may stop after a prefix of them: the `break` of the
buffering loop leaves the outer loop's cycle to go on to the acknowledgment and the sends, and the
loop ends at its next test of `g_state`. `cycle_id` counts the cycles, and in trigger mode 0 the
run file receives every byte the run buffered, in order.
-/

namespace EdaDaq

/-- The calls that touch the DAQ side: buffering, the FIFO acknowledgment, the run-file write. -/
def Call.isDaq : Call → Bool
  | .writeDif .. | .fifoAck | .writeBuffer .. => true
  | _ => false

/-- The DAQ calls of a trace. -/
def daqCalls (cs : List Call) : List Call := cs.filter Call.isDaq

@[simp] theorem daqCalls_nil : daqCalls [] = [] := rfl

@[simp] theorem daqCalls_append (cs cs' : List Call) :
    daqCalls (cs ++ cs') = daqCalls cs ++ daqCalls cs' := List.filter_append ..

@[simp] theorem daqCalls_fifoAck (cs : List Call) :
    daqCalls (.fifoAck :: cs) = .fifoAck :: daqCalls cs := rfl

@[simp] theorem daqCalls_resetBuffer (cs : List Call) :
    daqCalls (.resetBuffer :: cs) = daqCalls cs := rfl

@[simp] theorem daqCalls_writeDifs (c : List (Nat × List Byte)) :
    daqCalls (c.map fun x => .writeDif x.1 x.2) = c.map fun x => .writeDif x.1 x.2 :=
  List.filter_eq_self.mpr fun _ ha => by obtain ⟨_, _, rfl⟩ := List.mem_map.mp ha; rfl

/-- The slots of the `device_daq_send_dif` calls of a trace, in order. -/
def sentSlots (cs : List Call) : List Nat :=
  cs.filterMap fun
    | .sendDif i _ => some i
    | _ => none

@[simp] theorem sentSlots_nil : sentSlots [] = [] := rfl

@[simp] theorem sentSlots_append (cs cs' : List Call) :
    sentSlots (cs ++ cs') = sentSlots cs ++ sentSlots cs' := List.filterMap_append ..

@[simp] theorem sentSlots_fifoAck (cs : List Call) : sentSlots (.fifoAck :: cs) = sentSlots cs := rfl

@[simp] theorem sentSlots_resetBuffer (cs : List Call) :
    sentSlots (.resetBuffer :: cs) = sentSlots cs := rfl

@[simp] theorem sentSlots_sendDifs (rs : List (Nat × Int)) :
    sentSlots (rs.map fun x => .sendDif x.1 x.2) = rs.map Prod.fst := by
  induction rs <;> simp_all [sentSlots]

@[simp] theorem daqCalls_sendDifs (rs : List (Nat × Int)) :
    daqCalls (rs.map fun x => .sendDif x.1 x.2) = [] :=
  List.filter_eq_nil_iff.mpr fun _ ha => by obtain ⟨_, _, rfl⟩ := List.mem_map.mp ha; simp [Call.isDaq]

@[simp] theorem sentSlots_writeDifs (c : List (Nat × List Byte)) :
    sentSlots (c.map fun x => .writeDif x.1 x.2) = [] := by
  simp [sentSlots, List.filterMap_map, Function.comp_def]

/-- The bytes the `device_daq_write_dif` calls of a trace put into the cycle buffer. -/
def bufferedBytes (cs : List Call) : List Byte :=
  cs.flatMap fun
    | .writeDif _ data => data
    | _ => []

/-- A projection of a trace that reads only its DAQ calls. -/
theorem flatMap_daqCalls {α : Type} {φ : Call → List α}
    (hφ : ∀ c, c.isDaq = false → φ c = [])
    (cs : List Call) : (daqCalls cs).flatMap φ = cs.flatMap φ := by
  induction cs with
  | nil => rfl
  | cons c cs ih =>
    unfold daqCalls at ih ⊢
    cases hc : c.isDaq
    · simp [List.filter_cons, hc, hφ c hc, ih]
    · simp [List.filter_cons, hc, ih]

theorem runFile_daqCalls (file : Nat) (cs : List Call) : runFile file (daqCalls cs) = runFile file cs :=
  flatMap_daqCalls (fun c hc => by cases c <;> first | rfl | cases hc) cs

theorem bufferedBytes_daqCalls (cs : List Call) : bufferedBytes (daqCalls cs) = bufferedBytes cs :=
  flatMap_daqCalls (fun c hc => by cases c <;> first | rfl | cases hc) cs

/-- The DAQ calls of a cycle that buffered the slots of `c`, each with the bytes it took from the
FIFO: the `device_daq_write_dif` calls, `SYNC_fifo_ack()`, and what `record` makes of the cycle
buffer. -/
def cycleCalls (record : List Byte → List Call) (c : List (Nat × List Byte)) : List Call :=
  c.map (fun x => .writeDif x.1 x.2) ++ .fifoAck :: record (c.flatMap Prod.snd)

/-- The cycles a readout loop can run on the active slots `act`: each buffers all of `act` in
ascending order, except the last, which may stop after a prefix of it. -/
def RunShape (act : List Nat) : List (List (Nat × List Byte)) → Prop
  | [] => True
  | [c] => c.map Prod.fst <+: act
  | c :: cs => c.map Prod.fst = act ∧ RunShape act cs

instance RunShape.decide (act : List Nat) : DecidablePred (RunShape act)
  | [] => isTrue trivial
  | [c] => inferInstanceAs (Decidable (c.map Prod.fst <+: act))
  | c :: d :: cs =>
    have := RunShape.decide act (d :: cs)
    inferInstanceAs (Decidable (c.map Prod.fst = act ∧ RunShape act (d :: cs)))

example : RunShape [0, 1] [[(0, [7]), (1, [8])], [(0, [9])]] := by decide
example : ¬RunShape [0, 1] [[(0, [9])], [(0, [7]), (1, [8])]] := by decide

/-- Trigger mode 0 writes each cycle buffer to the run file. -/
def dccRecord (file : Nat) (b : List Byte) : List Call := [.writeBuffer file b]

/-- In trigger mode 0 a cycle's run-file write holds what it buffered. -/
theorem runFile_cycleCalls (file : Nat) (c : List (Nat × List Byte)) :
    runFile file (cycleCalls (dccRecord file) c) = c.flatMap Prod.snd := by
  simp [runFile, cycleCalls, dccRecord, List.flatMap_map, Function.comp_def]

theorem bufferedBytes_cycleCalls (file : Nat) (c : List (Nat × List Byte)) :
    bufferedBytes (cycleCalls (dccRecord file) c) = c.flatMap Prod.snd := by
  simp [bufferedBytes, cycleCalls, dccRecord, List.flatMap_map, Function.comp_def]

theorem RunShape.cons {act : List Nat} {c : List (Nat × List Byte)}
    {cs : List (List (Nat × List Byte))}
    (hc : c.map Prod.fst = act) (h : RunShape act cs) : RunShape act (c :: cs) := by
  cases cs with
  | nil => exact hc ▸ List.prefix_refl _
  | cons d cs => exact ⟨hc, h⟩

/-! ## The DAQ side of each step -/

/-- `w'` is `w` after calls that are neither DAQ calls nor exchanges, with the cycle buffer
unchanged. -/
def World.DaqIdle (w w' : World) : Prop :=
  ∃ cs, w'.calls = w.calls ++ cs ∧ daqCalls cs = [] ∧ sentSlots cs = [] ∧ w'.buffer = w.buffer

theorem World.DaqIdle.of_eq {w w' : World} (hc : w'.calls = w.calls) (hb : w'.buffer = w.buffer) :
    w.DaqIdle w' :=
  ⟨[], by rw [hc, List.append_nil], rfl, rfl, hb⟩

theorem World.DaqIdle.trans {w w' w'' : World} (h : w.DaqIdle w') (h' : w'.DaqIdle w'') :
    w.DaqIdle w'' := by
  obtain ⟨cs, hc, hd, hs, hb⟩ := h
  obtain ⟨cs', hc', hd', hs', hb'⟩ := h'
  exact ⟨cs ++ cs', by rw [hc', hc, List.append_assoc], by simp [hd, hd'], by simp [hs, hs'],
    hb'.trans hb⟩

/-- What the hooks of a trigger mode do on the DAQ side: the start and re-arm hooks append only
calls that are neither DAQ calls nor exchanges, and the run-file hook appends
`record daqFile buffer`, made of DAQ calls. -/
structure Trigger.Records (tr : Trigger) (record : Nat → List Byte → List Call) : Prop where
  started : ∀ w, ∃ cs, tr.started w = { w with calls := w.calls ++ cs } ∧ daqCalls cs = [] ∧
    sentSlots cs = []
  persist : ∀ ctx w, tr.persist ctx w = { w with calls := w.calls ++ record ctx.daqFile w.buffer }
  rearm : ∀ w, ∃ cs, tr.rearm w = { w with calls := w.calls ++ cs } ∧ daqCalls cs = [] ∧
    sentSlots cs = []
  daq : ∀ f b, daqCalls (record f b) = record f b
  unsent : ∀ f b, sentSlots (record f b) = []

theorem Trigger.dcc_records : Trigger.dcc.Records dccRecord :=
  ⟨fun _ => ⟨[], by rw [List.append_nil]; rfl, rfl, rfl⟩, fun _ _ => rfl,
    fun _ => ⟨[], by rw [List.append_nil]; rfl, rfl, rfl⟩, fun _ _ => rfl, fun _ _ => rfl⟩

theorem Trigger.noise_records : Trigger.noise.Records fun _ _ => [] :=
  ⟨fun _ => ⟨[.ramfullExt], rfl, rfl, rfl⟩, fun _ _ => by rw [List.append_nil]; rfl,
    fun _ => ⟨[.startAcq], rfl, rfl, rfl⟩, fun _ _ => rfl, fun _ _ => rfl⟩

theorem Trigger.Records.started_idle {tr : Trigger} {record : Nat → List Byte → List Call}
    (htr : tr.Records record) (w : World) : w.DaqIdle (tr.started w) := by
  obtain ⟨cs, h, hd, hs⟩ := htr.started w
  exact ⟨cs, by rw [h], hd, hs, by rw [h]⟩

theorem Trigger.Records.rearm_idle {tr : Trigger} {record : Nat → List Byte → List Call}
    (htr : tr.Records record) (w : World) :
    w.DaqIdle (tr.rearm w) ∧ (tr.rearm w).gState = w.gState := by
  obtain ⟨cs, h, hd, hs⟩ := htr.rearm w
  exact ⟨⟨cs, by rw [h], hd, hs, by rw [h]⟩, by rw [h]⟩

theorem pollGState_idle (w : World) : w.DaqIdle w.pollGState.2 := .of_eq rfl rfl

theorem busyWait_idle {r : Reg} {v : Word} {n : Nat} {w w' : World}
    (h : busyWait r v n w = some w') : w.DaqIdle w' := by
  obtain ⟨_, _, _, rfl⟩ := busyWait_frame h
  exact .of_eq rfl rfl

/-- The buffering loop writes a prefix of the active slots among `is`, in order, each with the
bytes it appends to the cycle buffer; it stops short of all of them only with `g_state` cleared;
and it changes only the task table. -/
theorem bufferSlots_spec (is : List Nat) (ctx : Device) (w : World) :
    ∃ c : List (Nat × List Byte),
      (bufferSlots is ctx w).2.calls = w.calls ++ c.map (fun x => .writeDif x.1 x.2) ∧
      (bufferSlots is ctx w).2.buffer = w.buffer ++ c.flatMap Prod.snd ∧
      c.map Prod.fst <+: is.filter (rfmActive ctx.rfmOn) ∧
      (c.map Prod.fst = is.filter (rfmActive ctx.rfmOn) ∨ (bufferSlots is ctx w).2.gState = false) ∧
      ∃ t, (bufferSlots is ctx w).1 = { ctx with task := t } := by
  induction is generalizing ctx w with
  | nil => exact ⟨[], by simp [bufferSlots], by simp [bufferSlots], by simp, .inl rfl, _, rfl⟩
  | cons i is ih =>
    by_cases ha : rfmActive ctx.rfmOn i
    · simp only [bufferSlots, ha, if_true, List.filter_cons_of_pos ha]
      split_ifs with hr
      · obtain ⟨c, hc, hb, hp, hor, t, ht⟩ :=
          ih (deviceDaqWriteDif ctx i w).1 (deviceDaqWriteDif ctx i w).2.pollGState.2
        exact ⟨(i, w.fifo.head) :: c, by simp [hc], by simp [hb], by simpa using hp,
          by simpa using hor, t, by rw [ht]; rfl⟩
      · exact ⟨[(i, w.fifo.head)], rfl, by simp, by simp,
          .inr (by simpa [World.pollGState] using hr), _, rfl⟩
    · simp only [bufferSlots, ha, if_false, List.filter_cons_of_neg ha, Bool.false_eq_true]
      exact ih ctx w

/-- The sending loop, when every exchange returns, has made one `device_daq_send_dif` call per
active slot among `is`, in order, and nothing else; it changes the sockets and the task table
only. -/
theorem sendSlots_spec {is : List Nat} {ctx : Device} {w : World} {s : Device × World}
    (h : sendSlots is ctx w = some s) :
    ∃ rs : List (Nat × Int),
      s.2 = { w with net := s.2.net, calls := w.calls ++ rs.map fun x => .sendDif x.1 x.2 } ∧
      rs.map Prod.fst = is.filter (rfmActive ctx.rfmOn) ∧ ∃ t, s.1 = { ctx with task := t } := by
  induction is generalizing ctx w with
  | nil => cases h; exact ⟨[], by simp, rfl, _, rfl⟩
  | cons i is ih =>
    simp only [sendSlots] at h
    by_cases ha : rfmActive ctx.rfmOn i
    · rw [if_pos ha] at h
      obtain ⟨s', hs', h⟩ := Option.bind_eq_some.mp h
      obtain ⟨⟨err, net⟩, -, rfl⟩ := Option.map_eq_some'.mp hs'
      obtain ⟨t', ht'⟩ : ∃ t, (if err ≠ 0 then ctx.setTask i { ctx.task i with rc := err } else ctx) =
          { ctx with task := t } := by
        split_ifs <;> exact ⟨_, rfl⟩
      dsimp only at h
      rw [ht'] at h
      obtain ⟨rs, hw, hr, t, ht⟩ := ih h
      refine ⟨(i, err) :: rs, by rw [hw]; simp, ?_, t, ht⟩
      rw [List.filter_cons_of_pos ha, List.map_cons, hr]
    · rw [if_neg ha] at h
      obtain ⟨rs, hw, hr, t, ht⟩ := ih h
      exact ⟨rs, hw, by rw [hr, List.filter_cons_of_neg ha], t, ht⟩

theorem readoutLoop_of_cleared {tr : Trigger} {nb n : Nat} {ctx : Device} {w : World}
    {s : Device × World}
    (hg : w.gState = false) (h : readoutLoop tr nb n ctx w = some s) : s = (ctx, w.pollGState.2) := by
  cases n with
  | zero => cases h
  | succ n =>
    simp only [readoutLoop, (World.pollGState_of_cleared hg).1] at h
    exact (Option.some.inj h).symm

section Loop

variable {tr : Trigger} {record : Nat → List Byte → List Call} (htr : tr.Records record)
include htr

theorem awaitData_idle {n : Nat} {w w' : World} {b : Bool} (h : awaitData tr n w = some (b, w')) :
    w.DaqIdle w' := by
  obtain ⟨u, hu, ⟨-, rfl⟩ | ⟨v, hv, rfl⟩⟩ := awaitData_cases h
  · exact (busyWait_idle hu).trans (pollGState_idle u)
  · exact (busyWait_idle hu).trans ((pollGState_idle u).trans ((htr.started_idle _).trans
      ((busyWait_idle hv).trans (pollGState_idle v))))

/-- One cycle past the waits, from an empty cycle buffer, whose exchanges all return: its DAQ
calls are those of a cycle that buffered a prefix of the active slots, all of them unless
`g_state` was cleared, and it exchanged with every active slot in ascending order; it advances
`cycle_id` and otherwise changes only the task table. -/
theorem acquire_cycle {nb : Nat} {ctx : Device} {w : World} {s : Device × World}
    (hb : w.buffer = []) (h : acquire tr nb ctx w = some s) :
    ∃ c t new, s.2.calls = w.calls ++ new ∧
      daqCalls new = cycleCalls (record ctx.daqFile) c ∧
      sentSlots new = activeSlots nb ctx.rfmOn ∧
      c.map Prod.fst <+: activeSlots nb ctx.rfmOn ∧
      (c.map Prod.fst = activeSlots nb ctx.rfmOn ∨ s.2.gState = false) ∧
      s.1 = { ctx with task := t, cycleId := ctx.cycleId + 1 } := by
  obtain ⟨s', hs', rfl⟩ := acquire_eq_some h
  obtain ⟨c, hc, hbuf, hp, hor, t1, ht1⟩ := bufferSlots_spec (List.range nb) ctx w
  rcases hbs : bufferSlots (List.range nb) ctx w with ⟨c1, w1⟩
  rw [hbs] at hc hbuf hor ht1 hs'
  dsimp only at hc hbuf hor ht1 hs'
  have hf : c1.daqFile = ctx.daqFile := by rw [ht1]
  have hr1 : c1.rfmOn = ctx.rfmOn := by rw [ht1]
  obtain ⟨rs, hw2, hrs, t2, ht2⟩ := sendSlots_spec hs'
  obtain ⟨c2, w2⟩ := s'
  dsimp only at hw2 ht2 ⊢
  obtain ⟨⟨cs', hcs', hd', hs'', -⟩, hg'⟩ := htr.rearm_idle w2
  refine ⟨c, t2, c.map (fun x => .writeDif x.1 x.2) ++ .fifoAck ::
    record ctx.daqFile (c.flatMap Prod.snd) ++ rs.map (fun x => .sendDif x.1 x.2) ++ cs', ?_, ?_, ?_,
    hp, ?_, ?_⟩
  · rw [hcs', hw2, htr.persist]
    simp [hc, hbuf, hb, hf]
  · simp [hd', htr.daq, cycleCalls]
  · simp [hs'', htr.unsent, hrs, hr1, activeSlots]
  · refine hor.imp_right fun h => ?_
    rw [hg', hw2]
    simpa [htr.persist] using h
  · rw [ht2, ht1]

/-- A readout run's DAQ calls are those of a list of cycles: every cycle buffers all the active
slots in ascending order, except the last, which may stop after a prefix of them. Every cycle
exchanges with all the active slots in ascending order; `cycle_id` counts the cycles; and only
the task table and `cycle_id` change. -/
theorem readoutLoop_cycles (nb n : Nat) {ctx : Device} {w : World} {s : Device × World}
    (h : readoutLoop tr nb n ctx w = some s) :
    ∃ new cycles t, s.2.calls = w.calls ++ new ∧
      daqCalls new = cycles.flatMap (cycleCalls (record ctx.daqFile)) ∧
      sentSlots new = (List.replicate cycles.length (activeSlots nb ctx.rfmOn)).flatten ∧
      RunShape (activeSlots nb ctx.rfmOn) cycles ∧
      s.1 = { ctx with task := t, cycleId := ctx.cycleId + cycles.length } := by
  induction n generalizing ctx w with
  | zero => cases h
  | succ n ih =>
    rcases readoutLoop_cases h with rfl | ⟨v, hv, rfl⟩ | ⟨v, s', hv, ha, h⟩
    · exact ⟨[], [], ctx.task, by simp, rfl, rfl, trivial, by simp⟩
    · obtain ⟨cs, hcs, hd, hsent, -⟩ := awaitData_idle htr hv
      exact ⟨[.resetBuffer] ++ cs, [], ctx.task, by simpa [daqResetBuffer] using hcs,
        by simp [hd], by simp [hsent], trivial, by simp⟩
    · obtain ⟨cs, hcs, hd, hsent, hvb⟩ := awaitData_idle htr hv
      obtain ⟨c, t, new, hn, hdn, hsn, hp, hor, hctx⟩ := acquire_cycle htr hvb ha
      have hw : s'.2.calls = w.calls ++ ([.resetBuffer] ++ cs ++ new) := by
        simp [hn, hcs, daqResetBuffer]
      have hsw : sentSlots ([.resetBuffer] ++ cs ++ new) = activeSlots nb ctx.rfmOn := by
        simp [hsent, hsn]
      rcases hor with hfull | hg
      · obtain ⟨new', cycles, t', hn', hd', hs', hsh, hs⟩ := ih h
        rw [hctx] at hd' hs' hsh hs
        refine ⟨[.resetBuffer] ++ cs ++ new ++ new', c :: cycles, t', ?_, ?_, ?_, hsh.cons hfull, ?_⟩
        · rw [hn', hw, List.append_assoc]
        · simp [hd, hdn, hd']
        · rw [sentSlots_append, hsw, hs', List.length_cons, List.replicate_succ, List.flatten_cons]
        · rw [hs, List.length_cons, Nat.cast_succ, add_right_comm, add_assoc]
      · obtain rfl := readoutLoop_of_cleared hg h
        refine ⟨[Call.resetBuffer] ++ cs ++ new, [c], t, hw, by simp [hd, hdn],
          by rw [hsw]; simp, hp, ?_⟩
        rw [hctx]
        simp

end Loop

/-- A run of `device_loop` in either trigger mode is a list of cycles, as its DAQ calls show:
every cycle buffers all the active slots in ascending order, except the last, which may stop
after a prefix of them; each cycle is acknowledged once, and in trigger mode 0 its buffer is then
written to the run file; `cycle_id` advances by the number of cycles; and only the task table and
`cycle_id` change. -/
theorem deviceLoop_cycles (fp : Fpga) (n : Nat) (ctx : Device) (w : World) {s : Device × World}
    (h : deviceLoop fp n ctx w = some s) :
    ∃ new cycles t, s.2.calls = w.calls ++ new ∧
      daqCalls new = cycles.flatMap
        (cycleCalls (if ctx.trigMode = 0 then dccRecord ctx.daqFile else fun _ => [])) ∧
      RunShape (activeSlots fp.nbRfm ctx.rfmOn) cycles ∧
      s.1 = { ctx with task := t, cycleId := ctx.cycleId + cycles.length } := by
  simp only [deviceLoop, deviceLoopDcc, deviceLoopNoise] at h
  split_ifs at h with h0 h1
  · rw [if_pos h0]
    obtain ⟨new, cycles, t, hn, hd, -, hsh, hs⟩ := readoutLoop_cycles Trigger.dcc_records _ n h
    exact ⟨new, cycles, t, hn, hd, hsh, hs⟩
  · rw [if_neg h0]
    obtain ⟨new, cycles, t, hn, hd, -, hsh, hs⟩ := readoutLoop_cycles Trigger.noise_records _ n h
    exact ⟨new, cycles, t, hn, hd, hsh, hs⟩
  · cases h
    exact ⟨[], [], ctx.task, by simp, rfl, trivial, by simp⟩

/-- A run of `device_loop` exchanges with every active slot once per cycle, in ascending slot
order, and counts the cycles in `cycle_id`. -/
theorem deviceLoop_sends (fp : Fpga) (n : Nat) {ctx : Device} {w : World} {s : Device × World}
    (h : deviceLoop fp n ctx w = some s) :
    ∃ new m, s.2.calls = w.calls ++ new ∧
      sentSlots new = (List.replicate m (activeSlots fp.nbRfm ctx.rfmOn)).flatten ∧
      s.1.cycleId = ctx.cycleId + m := by
  simp only [deviceLoop, deviceLoopDcc, deviceLoopNoise] at h
  split_ifs at h
  · obtain ⟨new, cycles, t, hn, -, hs, -, hc⟩ := readoutLoop_cycles Trigger.dcc_records _ n h
    exact ⟨new, cycles.length, hn, hs, by rw [hc]⟩
  · obtain ⟨new, cycles, t, hn, -, hs, -, hc⟩ := readoutLoop_cycles Trigger.noise_records _ n h
    exact ⟨new, cycles.length, hn, hs, by rw [hc]⟩
  · cases h
    exact ⟨[], 0, by simp, rfl, by simp⟩

theorem deviceLoop_cycles_cut_short :
    ∃ s, deviceLoop board 3 twoSlots (readyWorld 3) = some s ∧
      ∃ new cycles t, s.2.calls = (readyWorld 3).calls ++ new ∧
        daqCalls new = cycles.flatMap (cycleCalls
          (if twoSlots.trigMode = 0 then dccRecord twoSlots.daqFile else fun _ => [])) ∧
        RunShape (activeSlots board.nbRfm twoSlots.rfmOn) cycles ∧
        s.1 = { twoSlots with task := t, cycleId := twoSlots.cycleId + cycles.length } :=
  ⟨_, rfl, deviceLoop_cycles board 3 twoSlots (readyWorld 3) rfl⟩

/-- In trigger mode 0 the run file receives every byte the run buffered, in order. -/
theorem deviceLoopDcc_runFile (fp : Fpga) (n : Nat) (ctx : Device) (w : World) {s : Device × World}
    (h : deviceLoopDcc fp n ctx w = some s) :
    ∃ new, s.2.calls = w.calls ++ new ∧ runFile ctx.daqFile new = bufferedBytes new := by
  obtain ⟨new, cycles, -, hn, hd, -, -, -⟩ := readoutLoop_cycles Trigger.dcc_records fp.nbRfm n h
  refine ⟨new, hn, ?_⟩
  rw [← runFile_daqCalls, ← bufferedBytes_daqCalls, hd]
  simp only [runFile, bufferedBytes, List.flatMap_assoc]
  exact congrArg _ (funext fun c =>
    (runFile_cycleCalls ctx.daqFile c).trans (bufferedBytes_cycleCalls ctx.daqFile c).symm)

theorem deviceLoopDcc_runFile_board :
    ∃ s, deviceLoopDcc board 3 twoSlots (readyWorld 5) = some s ∧
      ∃ new, s.2.calls = (readyWorld 5).calls ++ new ∧
        runFile twoSlots.daqFile new = bufferedBytes new :=
  ⟨_, rfl, deviceLoopDcc_runFile board 3 twoSlots (readyWorld 5) rfl⟩

end EdaDaq
