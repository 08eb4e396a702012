import EdaDaq.Readout

/-!
# The `rc` of a slot over a run

A readout loop writes a slot's `rc` in one place: after `device_daq_send_dif` for that slot
returns nonzero. So the trace of calls a run appends determines every slot's `rc`: it is the
last nonzero result of an exchange of that slot, or the value the slot had before the run
(`readoutLoop_rcTrace`). `RcTrace s s'` says this of two states; each step of a cycle keeps
it, and it composes along a run.

An exchange's result records only what `device_daq_send_dif` checks: a payload `send` that
returns `-1` between two accepted acknowledgments leaves the result `0`, and so the slot's `rc`
unchanged (`deviceLoopDcc_misses_payload_failure`).
-/

namespace EdaDaq

/-- The `rc` of slot `i` after call `c`, from `r`: a failed exchange of slot `i` stores its
result. -/
def Call.rcAfter (i : Nat) (r : Int) : Call → Int
  | .sendDif j e => if j = i ∧ e ≠ 0 then e else r
  | _ => r

/-- The `rc` of slot `i` after the calls `cs`, from `r`: the last nonzero result of an exchange
of slot `i`, or `r` when there was none. -/
def lastRc (i : Nat) (r : Int) (cs : List Call) : Int := cs.foldl (Call.rcAfter i) r

@[simp] theorem lastRc_nil (i : Nat) (r : Int) : lastRc i r [] = r := rfl

@[simp] theorem lastRc_append (i : Nat) (r : Int) (cs cs' : List Call) :
    lastRc i r (cs ++ cs') = lastRc i (lastRc i r cs) cs' := List.foldl_append ..

@[simp] theorem lastRc_singleton (i : Nat) (r : Int) (c : Call) :
    lastRc i r [c] = c.rcAfter i r := rfl

/-- What `DAQ_write_buffer` calls in a trace write to the file `file`. -/
def runFile (file : Nat) (cs : List Call) : List Byte :=
  cs.flatMap fun
    | .writeBuffer f data => if f = file then data else []
    | _ => []

/-- `s'` extends the trace of `s` by some calls, and every slot's `rc` is what those calls
leave it. -/
def RcTrace (s s' : Device × World) : Prop :=
  ∃ new, s'.2.calls = s.2.calls ++ new ∧ ∀ i, (s'.1.task i).rc = lastRc i (s.1.task i).rc new

namespace RcTrace

theorem refl (s : Device × World) : RcTrace s s := ⟨[], by simp, fun _ => rfl⟩

theorem trans {s s' s'' : Device × World} (h : RcTrace s s') (h' : RcTrace s' s'') :
    RcTrace s s'' := by
  obtain ⟨n, hc, hr⟩ := h
  obtain ⟨n', hc', hr'⟩ := h'
  exact ⟨n ++ n', by rw [hc', hc, List.append_assoc], fun i => by rw [hr', hr, lastRc_append]⟩

/-- A step that keeps the task table and the trace. -/
theorem of_eq {c c' : Device} {w w' : World} (ht : c'.task = c.task) (hw : w'.calls = w.calls) :
    RcTrace (c, w) (c', w') :=
  ⟨[], by simp [hw], fun _ => by simp [ht]⟩

/-- A step that keeps every `rc` and appends one call that is not an exchange. -/
theorem quiet {c c' : Device} {w w' : World} (x : Call) (hx : ∀ i r, x.rcAfter i r = r)
    (hc : ∀ i, (c'.task i).rc = (c.task i).rc) (hw : w'.calls = w.calls ++ [x]) :
    RcTrace (c, w) (c', w') :=
  ⟨[x], hw, fun i => by simp [hc, hx]⟩

theorem call (c : Device) (w : World) (x : Call) (hx : ∀ i r, x.rcAfter i r = r) :
    RcTrace (c, w) (c, w.call x) :=
  quiet x hx (fun _ => rfl) rfl

end RcTrace

/-! ## Steps of a cycle -/

theorem deviceDaqWriteDif_rcTrace (ctx : Device) (i : Nat) (w : World) :
    RcTrace (ctx, w) (deviceDaqWriteDif ctx i w) :=
  RcTrace.quiet (.writeDif i w.fifo.head) (fun _ _ => rfl)
    (fun j => by simp only [deviceDaqWriteDif, Device.setTask_task]; split_ifs <;> simp_all) rfl

theorem bufferSlots_rcTrace (is : List Nat) (ctx : Device) (w : World) :
    RcTrace (ctx, w) (bufferSlots is ctx w) := by
  induction is generalizing ctx w with
  | nil => exact .refl _
  | cons i is ih =>
    have hw := deviceDaqWriteDif_rcTrace ctx i w
    have hp := RcTrace.of_eq (c := (deviceDaqWriteDif ctx i w).1) rfl
      (World.pollGState_calls (deviceDaqWriteDif ctx i w).2).symm
    simp only [bufferSlots]
    split_ifs
    · exact hw.trans (hp.trans (ih _ _))
    · exact hw.trans hp
    · exact ih ctx w

theorem sendSlot_rcTrace {i : Nat} {ctx : Device} {w : World} {s : Device × World}
    (h : sendSlot i ctx w = some s) : RcTrace (ctx, w) s := by
  obtain ⟨⟨err, net⟩, -, rfl⟩ := Option.map_eq_some'.mp h
  refine ⟨[.sendDif i err], rfl, fun j => ?_⟩
  simp only [lastRc_singleton, Call.rcAfter]
  by_cases hj : j = i
  · subst hj; split_ifs <;> simp_all
  · split_ifs <;> simp_all [Ne.symm hj]

theorem sendSlots_rcTrace {is : List Nat} {ctx : Device} {w : World} {s : Device × World}
    (h : sendSlots is ctx w = some s) : RcTrace (ctx, w) s := by
  induction is generalizing ctx w with
  | nil => cases h; exact .refl _
  | cons i is ih =>
    simp only [sendSlots] at h
    split_ifs at h
    · obtain ⟨s', hs', h⟩ := Option.bind_eq_some.mp h
      exact (sendSlot_rcTrace hs').trans (ih h)
    · exact ih h

/-- Slot 0 alone is switched on. -/
def oneSlot : Device := { Device.blank with rfmOn := 1 }

/-- The consumer on descriptor 0 takes the header, refuses the payload with `-1`, and
acknowledges each time. -/
def payloadRefusedWorld : World :=
  { readyWorld 3 with net := fun _ => ⟨fun i => if i = 1 then .fail else .ok 8, fun _ => .ok ackReply, []⟩ }

/-- A payload send that fails with `-1` between two accepted acknowledgments goes unnoticed: the
exchange of slot 0 returns `0`, the loop records no failure, and slot 0's `rc` stays `0`. -/
theorem deviceLoopDcc_misses_payload_failure :
    (payloadRefusedWorld.net 0).sends 1 = .fail ∧
      (deviceLoopDcc board 3 oneSlot payloadRefusedWorld).map
          (fun s => ((s.1.task 0).rc, s.2.calls, (s.2.net 0).sent)) =
        some (0, [.resetBuffer, .writeDif 0 [7], .fifoAck, .writeBuffer 0 [7], .sendDif 0 0],
          [[72, 68, 82, 0, 1, 0, 0, 0], [7]]) :=
  ⟨rfl, rfl⟩

/-- The hooks of a trigger mode append no exchange and keep the task table. -/
structure Trigger.Quiet (tr : Trigger) : Prop where
  started : ∀ ctx w, RcTrace (ctx, w) (ctx, tr.started w)
  persist : ∀ ctx w, RcTrace (ctx, w) (ctx, tr.persist ctx w)
  rearm : ∀ ctx w, RcTrace (ctx, w) (ctx, tr.rearm w)

theorem Trigger.dcc_quiet : Trigger.dcc.Quiet :=
  ⟨fun _ _ => .refl _, fun c w => RcTrace.call c w _ fun _ _ => rfl, fun _ _ => .refl _⟩

theorem Trigger.noise_quiet : Trigger.noise.Quiet :=
  ⟨fun c w => RcTrace.call c w _ fun _ _ => rfl, fun _ _ => .refl _,
    fun c w => RcTrace.call c w _ fun _ _ => rfl⟩

section Loop

variable {tr : Trigger} (htr : tr.Quiet)
include htr

theorem acquire_rcTrace {nb : Nat} {ctx : Device} {w : World} {s : Device × World}
    (h : acquire tr nb ctx w = some s) : RcTrace (ctx, w) s := by
  obtain ⟨s', hs', rfl⟩ := acquire_eq_some h
  let b := bufferSlots (List.range nb) ctx w
  have hb : RcTrace (ctx, w) b := bufferSlots_rcTrace _ ctx w
  have hp : RcTrace b (b.1, tr.persist b.1 (b.2.call .fifoAck)) :=
    (RcTrace.call b.1 b.2 .fifoAck fun _ _ => rfl).trans (htr.persist _ _)
  have hr : RcTrace s' ({ s'.1 with cycleId := s'.1.cycleId + 1 }, tr.rearm s'.2) :=
    (htr.rearm s'.1 s'.2).trans (RcTrace.of_eq rfl rfl)
  exact hb.trans (hp.trans ((sendSlots_rcTrace hs').trans hr))

theorem awaitData_rcTrace {n : Nat} {w w' : World} {b : Bool} (ctx : Device)
    (h : awaitData tr n w = some (b, w')) : RcTrace (ctx, w) (ctx, w') := by
  obtain ⟨u, hu, ⟨-, rfl⟩ | ⟨v, hv, rfl⟩⟩ := awaitData_cases h
  · exact RcTrace.of_eq rfl (by simp [busyWait_calls hu])
  · have hu' : RcTrace (ctx, w) (ctx, u.pollGState.2) :=
      RcTrace.of_eq rfl (by simp [busyWait_calls hu])
    have hv' : RcTrace (ctx, tr.started u.pollGState.2) (ctx, v.pollGState.2) :=
      RcTrace.of_eq rfl (by simp [busyWait_calls hv])
    exact hu'.trans ((htr.started ctx _).trans hv')

/-- Over a whole run of a readout loop, every slot's `rc` is the last nonzero result of an
exchange of that slot in the run, or the value it had before. -/
theorem readoutLoop_rcTrace (nb n : Nat) {ctx : Device} {w : World} {s : Device × World}
    (h : readoutLoop tr nb n ctx w = some s) : RcTrace (ctx, w) s := by
  induction n generalizing ctx w with
  | zero => cases h
  | succ n ih =>
    have hr : RcTrace (ctx, w) (ctx, daqResetBuffer w.pollGState.2) :=
      RcTrace.quiet .resetBuffer (fun _ _ => rfl) (fun _ => rfl) rfl
    rcases readoutLoop_cases h with rfl | ⟨v, hv, rfl⟩ | ⟨v, s', hv, ha, h⟩
    · exact RcTrace.of_eq rfl rfl
    · exact hr.trans (awaitData_rcTrace htr ctx hv)
    · exact hr.trans ((awaitData_rcTrace htr ctx hv).trans ((acquire_rcTrace htr ha).trans (ih h)))

end Loop

theorem deviceLoop_rcTrace (fp : Fpga) (n : Nat) {ctx : Device} {w : World} {s : Device × World}
    (h : deviceLoop fp n ctx w = some s) : RcTrace (ctx, w) s := by
  simp only [deviceLoop, deviceLoopDcc, deviceLoopNoise] at h
  split_ifs at h
  · exact readoutLoop_rcTrace Trigger.dcc_quiet _ n h
  · exact readoutLoop_rcTrace Trigger.noise_quiet _ n h
  · cases h
    exact .refl _

end EdaDaq
