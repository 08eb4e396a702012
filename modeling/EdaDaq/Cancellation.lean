import EdaDaq.Lifecycle

/-!
# Stopping a run

`handle_sigint` and `device_stop_loop` clear `g_state`, and every wait of `device_start` and
`device_loop` reads `g_state` at each of its turns: the busy waits on a register, the reset-BCID
wait, the tests between the waits, and the test after each slot of the buffering loop. So once
the signal has arrived, or `g_state` is already `0`, both return after a bounded number of reads
of `g_state`, whatever the FPGA registers show.

`World.StopsWithin k` says that one of the next `k` reads of `g_state` returns `0`. A read that
returns `1` spends one of them, and every other step of the code leaves `g_state` and the signal
alone, so the count is a measure: a fuel above it is enough for `device_start`, then
`device_loop`, to return (`deviceStart_deviceLoop_stop`). The readout loop also waits on its
consumers: `send` and `recv` block, with no timeout, while a consumer does not answer, and there
`g_state` is not read. So the loop returns when every consumer keeps answering.
-/

namespace EdaDaq

/-- One of the next `k` reads of `g_state` returns `0`: it is already `0`, or the signal arrives
before one of them. -/
def World.StopsWithin (k : Nat) (w : World) : Prop :=
  ∃ i < k, w.gState = false ∨ w.signal i = true

/-- `w'` has the `g_state` and the signal of `w`. -/
def World.SameClock (w w' : World) : Prop := w'.gState = w.gState ∧ w'.signal = w.signal

namespace World

variable {k : Nat} {w w' : World}

@[simp] theorem pollGState_gState (w : World) : w.pollGState.2.gState = w.pollGState.1 := rfl

theorem SameClock.trans {w'' : World} (h : w.SameClock w') (h' : w'.SameClock w'') :
    w.SameClock w'' :=
  ⟨h'.1.trans h.1, h'.2.trans h.2⟩

theorem call_clock (c : Call) (w : World) : w.SameClock (w.call c) := ⟨rfl, rfl⟩

theorem StopsWithin.pos (h : w.StopsWithin k) : 0 < k := by
  obtain ⟨i, hi, -⟩ := h
  omega

theorem StopsWithin.mono (h : w.StopsWithin k) {k' : Nat} (hk : k ≤ k') : w.StopsWithin k' := by
  obtain ⟨i, hi, hs⟩ := h
  exact ⟨i, by omega, hs⟩

theorem StopsWithin.clock (h : w.StopsWithin k) (hc : w.SameClock w') : w'.StopsWithin k := by
  rw [StopsWithin, hc.1, hc.2]
  exact h

/-- A read of `g_state` that returns `1` spends one of the reads. -/
theorem StopsWithin.poll (h : w.StopsWithin (k + 1)) (hrun : w.pollGState.1 = true) :
    w.pollGState.2.StopsWithin k := by
  obtain ⟨hg, hsig⟩ : w.gState = true ∧ w.signal 0 = false := by simpa [pollGState] using hrun
  obtain ⟨_ | i, hi, hs⟩ := h
  · simp [hg, hsig] at hs
  · exact ⟨i, by omega, .inr (by simpa [hg] using hs)⟩

/-- A read of `g_state` never brings the stop further away. -/
theorem StopsWithin.poll_le (h : w.StopsWithin k) : w.pollGState.2.StopsWithin k := by
  cases hrun : w.pollGState.1
  · exact ⟨0, h.pos, .inl (by simp [hrun])⟩
  · obtain ⟨k, rfl⟩ : ∃ j, k = j + 1 := ⟨k - 1, by have := h.pos; omega⟩
    exact (h.poll hrun).mono (by omega)

end World

/-! ## The waits -/

/-- Once the stop is `k` reads away, a busy wait with fuel `k` returns. -/
theorem busyWait_stops (r : Reg) (v : Word) :
    ∀ {fuel k : Nat} {w : World}, w.StopsWithin k → k ≤ fuel →
      ∃ w', busyWait r v fuel w = some w' ∧ w'.StopsWithin k
  | 0, _, _, h, hk => absurd h.pos (by omega)
  | fuel + 1, k, w, h, hk => by
    have hr : (w.read r).2.StopsWithin k := h.clock ⟨rfl, rfl⟩
    rw [busyWait.eq_2]
    dsimp only
    split_ifs with hx hrun
    · obtain ⟨k, rfl⟩ : ∃ j, k = j + 1 := ⟨k - 1, by have := h.pos; omega⟩
      obtain ⟨w', hw', hs⟩ := busyWait_stops r v (hr.poll hrun) (by omega : k ≤ fuel)
      exact ⟨w', hw', hs.mono (by omega)⟩
    · exact ⟨_, rfl, hr.poll_le⟩
    · exact ⟨_, rfl, hr⟩

/-- The hooks of a trigger mode leave `g_state`, the signal and the sockets alone. -/
structure Trigger.KeepsClock (tr : Trigger) extends Trigger.KeepsNet tr : Prop where
  started : ∀ w : World, w.SameClock (tr.started w)
  persist : ∀ (ctx : Device) (w : World), w.SameClock (tr.persist ctx w)
  rearm : ∀ w : World, w.SameClock (tr.rearm w)

theorem Trigger.dcc_keepsClock : Trigger.dcc.KeepsClock :=
  ⟨Trigger.dcc_keepsNet, fun _ => ⟨rfl, rfl⟩, fun _ _ => ⟨rfl, rfl⟩, fun _ => ⟨rfl, rfl⟩⟩

theorem Trigger.noise_keepsClock : Trigger.noise.KeepsClock :=
  ⟨Trigger.noise_keepsNet, fun _ => ⟨rfl, rfl⟩, fun _ _ => ⟨rfl, rfl⟩, fun _ => ⟨rfl, rfl⟩⟩

/-- An exchange with consumers that all keep answering returns, leaves `g_state` and the signal
alone, and the consumers keep answering. -/
theorem sendSlot_live (i : Nat) (ctx : Device) {w : World} (hn : ∀ fd, (w.net fd).Live) :
    ∃ s, sendSlot i ctx w = some s ∧ w.SameClock s.2 ∧ ∀ fd, (s.2.net fd).Live := by
  obtain ⟨e, net', hd, hl⟩ := deviceDaqSendDif_live ctx w.memory i w.net (hn _)
  refine ⟨_, by rw [sendSlot, hd]; rfl, ?_, fun fd => ?_⟩
  · exact ⟨rfl, rfl⟩
  · by_cases hfd : fd = (ctx.task i).sck
    · subst hfd
      exact hl
    · show (net' fd).Live
      rw [deviceDaqSendDif_net_other _ _ _ _ hd hfd]
      exact hn fd

theorem sendSlots_live (is : List Nat) (ctx : Device) {w : World} (hn : ∀ fd, (w.net fd).Live) :
    ∃ s, sendSlots is ctx w = some s ∧ w.SameClock s.2 ∧ ∀ fd, (s.2.net fd).Live := by
  induction is generalizing ctx w with
  | nil => exact ⟨_, rfl, ⟨rfl, rfl⟩, hn⟩
  | cons i is ih =>
    simp only [sendSlots]
    split_ifs
    · obtain ⟨s, hs, hc, hl⟩ := sendSlot_live i ctx hn
      obtain ⟨s', hs', hc', hl'⟩ := ih s.1 hl
      exact ⟨s', by rw [hs]; exact hs', hc.trans hc', hl'⟩
    · exact ih ctx hn

section Loop

variable {tr : Trigger} (htr : tr.KeepsClock)
include htr

/-- The waits that open a cycle return once the stop is `k` reads away and the fuel is `k`; the
flag they return is the `g_state` they leave. -/
theorem awaitData_stops {fuel k : Nat} {w : World} (h : w.StopsWithin k) (hk : k ≤ fuel) :
    ∃ b w', awaitData tr fuel w = some (b, w') ∧ w'.gState = b ∧ w'.StopsWithin k := by
  obtain ⟨u, hu, hsu⟩ := busyWait_stops tr.start 0 h hk
  unfold awaitData
  rw [hu]
  dsimp only
  split_ifs with hrun
  · obtain ⟨k, rfl⟩ : ∃ j, k = j + 1 := ⟨k - 1, by have := hsu.pos; omega⟩
    obtain ⟨v, hv, hsv⟩ := busyWait_stops .fifoReady 0
      ((hsu.poll hrun).clock (htr.started _)) (by omega : k ≤ fuel)
    exact ⟨_, _, by rw [hv]; rfl, rfl, hsv.poll_le.mono (by omega)⟩
  · exact ⟨false, _, rfl, by simpa using hrun, hsu.poll_le⟩

theorem acquire_stops (nb : Nat) (ctx : Device) {w : World} (h : w.StopsWithin k)
    (hn : ∀ fd, (w.net fd).Live) :
    ∃ s, acquire tr nb ctx w = some s ∧ s.2.StopsWithin k ∧ ∀ fd, (s.2.net fd).Live := by
  -- the buffering loop only reads `g_state`; the rest leaves it alone
  have hbuf : ∀ (is : List Nat) (c : Device) {u : World}, u.StopsWithin k →
      (bufferSlots is c u).2.StopsWithin k := by
    intro is
    induction is with
    | nil => exact fun _ _ h => h
    | cons i is ih =>
      intro c u hu
      have hd : (deviceDaqWriteDif c i u).2.StopsWithin k := hu.clock ⟨rfl, rfl⟩
      simp only [bufferSlots]
      split_ifs
      · exact ih _ hd.poll_le
      · exact hd.poll_le
      · exact ih c hu
  have hp : ∀ fd, ((tr.persist (bufferSlots (List.range nb) ctx w).1
      ((bufferSlots (List.range nb) ctx w).2.call .fifoAck)).net fd).Live := fun fd => by
    rw [htr.persist_net, World.call_net, bufferSlots_net]
    exact hn fd
  obtain ⟨s, hs, hc, hl⟩ := sendSlots_live _ _ hp
  refine ⟨_, by rw [acquire_eq, hs]; rfl, ?_, fun fd => by rw [htr.rearm_net]; exact hl fd⟩
  exact ((hbuf _ ctx h).clock ((World.call_clock _ _).trans (htr.persist _ _))).clock
    (hc.trans (htr.rearm _))

/-- Once the stop is `k` reads away, a readout loop with fuel `k` whose consumers all keep
answering returns, with `g_state` cleared. -/
theorem readoutLoop_stops (nb : Nat) :
    ∀ {fuel k : Nat} (ctx : Device) {w : World}, w.StopsWithin k → k ≤ fuel →
      (∀ fd, (w.net fd).Live) → ∃ s, readoutLoop tr nb fuel ctx w = some s ∧ s.2.gState = false
  | 0, _, _, _, h, hk, _ => absurd h.pos (by omega)
  | fuel + 1, k, ctx, w, h, hk, hn => by
    rw [readoutLoop.eq_2]
    dsimp only
    split_ifs with hrun
    · obtain ⟨k, rfl⟩ : ∃ j, k = j + 1 := ⟨k - 1, by have := h.pos; omega⟩
      obtain ⟨b, v, hv, hb, hsv⟩ := awaitData_stops htr
        ((h.poll hrun).clock (⟨rfl, rfl⟩ : World.SameClock _ (daqResetBuffer w.pollGState.2)))
        (by omega : k ≤ fuel)
      have hnv : ∀ fd, (v.net fd).Live := fun fd => by
        rw [awaitData_net htr.toKeepsNet hv]
        exact hn fd
      rw [hv]
      cases b
      · exact ⟨_, rfl, hb⟩
      · obtain ⟨s, hs, hss, hsn⟩ := acquire_stops htr nb ctx hsv hnv
        dsimp only
        rw [hs]
        exact readoutLoop_stops nb _ hss (by omega) hsn
    · exact ⟨_, rfl, by simpa using hrun⟩

end Loop

/-- Once the stop is `k` reads away, the reset-BCID wait with fuel above `k` returns, and leaves
the sockets alone. -/
theorem waitResetBcid_stops (fp : Fpga) :
    ∀ {fuel k : Nat} (cmd : Word) {w : World}, w.StopsWithin k → k < fuel →
      ∃ v, waitResetBcid fp fuel cmd w = some v ∧ v.StopsWithin k ∧ v.net = w.net
  | 0, _, _, _, _, hk => absurd hk (by omega)
  | fuel + 1, k, cmd, w, h, hk => by
    by_cases hc : cmd = fp.cmdResetBcid
    · rw [waitResetBcid.eq_2, if_pos hc]
      exact ⟨w, rfl, h, rfl⟩
    rw [waitResetBcid_succ hc]
    obtain ⟨u, hu, hsu⟩ := busyWait_stops .dccCmd cmd h (by omega : k ≤ fuel)
    have hr : (u.read .dccCmd).2.StopsWithin k := hsu.clock ⟨rfl, rfl⟩
    have hn : (u.read .dccCmd).2.pollGState.2.net = w.net := (busyWait_net hu :)
    rw [hu, Option.some_bind]
    split_ifs with hrun
    · obtain ⟨k, rfl⟩ : ∃ j, k = j + 1 := ⟨k - 1, by have := h.pos; omega⟩
      obtain ⟨v, hv, hsv, hvn⟩ := waitResetBcid_stops fp _ (hr.poll hrun) (by omega : k < fuel)
      exact ⟨v, hv, hsv.mono (by omega), hvn.trans hn⟩
    · exact ⟨_, rfl, hr.poll_le, hn⟩

theorem fifoInits_clock (fp : Fpga) (ctx : Device) (w : World) :
    w.SameClock (fifoInits fp ctx w) := by
  rw [fifoInits_eq]
  exact ⟨rfl, rfl⟩

/-- Once the stop is `k` reads away, `device_start` with fuel above `k` returns, and leaves the
sockets alone. -/
theorem deviceStart_stops (fp : Fpga) (ctx : Device) (run : Word) {fuel k : Nat} {w : World}
    (h : w.StopsWithin k) (hk : k < fuel) :
    ∃ r c v, deviceStart fp fuel ctx run w = some (r, c, v) ∧ c.trigMode = ctx.trigMode ∧
      v.StopsWithin k ∧ v.net = w.net := by
  -- `device_init_run` takes a handle and makes calls, and reads no `g_state`
  have hi : (deviceInitRun ctx run w).2.2.StopsWithin k ∧
      (deviceInitRun ctx run w).2.1.trigMode = ctx.trigMode ∧
      (deviceInitRun ctx run w).2.2.net = w.net := by
    unfold deviceInitRun World.grant
    split_ifs <;> exact ⟨h.clock ⟨rfl, rfl⟩, rfl, rfl⟩
  unfold deviceStart
  rcases hrun : deviceInitRun ctx run w with ⟨e, c, u⟩
  rw [hrun] at hi
  obtain ⟨hu, hc, hun⟩ := hi
  dsimp only
  split_ifs with he h0 h1
  · exact ⟨_, _, _, rfl, hc, hu, hun⟩
  · obtain ⟨v, hv, hsv, hvn⟩ := waitResetBcid_stops fp 0xE hu hk
    unfold deviceStartRunDcc
    rw [hv, Option.map_some']
    dsimp only
    split_ifs
    · exact ⟨_, _, _, rfl, hc, hsv.poll_le, hvn.trans hun⟩
    · refine ⟨_, _, _, rfl, hc, hsv.poll_le.clock (((World.call_clock _ _).trans
        (World.call_clock _ _)).trans ((fifoInits_clock _ _ _).trans (World.call_clock _ _))), ?_⟩
      rw [World.call_net, fifoInits_eq]
      exact hvn.trans hun
  · refine ⟨_, _, _, rfl, hc, hu.clock ((fifoInits_clock _ _ _).trans (((World.call_clock _ _).trans
      (World.call_clock _ _)).trans ((World.call_clock _ _).trans (World.call_clock _ _)))), ?_⟩
    simp only [deviceStartRunNoise, World.call_net, fifoInits_eq]
    exact hun
  · exact ⟨_, _, _, rfl, hc, hu, hun⟩

/-- Once the signal has arrived, or `g_state` is already `0`, `device_start` and then
`device_loop` both return, whatever the FPGA registers show, as long as every consumer keeps
answering: with one of the next `k` reads of `g_state` returning `0`, a fuel above `k` for every
wait and for the readout cycles is enough. A readout loop of trigger mode 0 or 1 returns with
`g_state` cleared. -/
theorem deviceStart_deviceLoop_stop (fp : Fpga) (ctx : Device) (run : Word) (w : World) {k : Nat}
    (hk : w.StopsWithin k) (hn : ∀ fd, (w.net fd).Live) (fuel : Nat) (hf : k < fuel) :
    ∃ r c v, deviceStart fp fuel ctx run w = some (r, c, v) ∧
      ∃ s, deviceLoop fp fuel c v = some s ∧
        (ctx.trigMode = 0 ∨ ctx.trigMode = 1 → s.2.gState = false) := by
  obtain ⟨r, c, v, hs, hc, hv, hvn⟩ := deviceStart_stops fp ctx run hk hf
  have hn' : ∀ fd, (v.net fd).Live := fun fd => by
    rw [hvn]
    exact hn fd
  refine ⟨r, c, v, hs, ?_⟩
  unfold deviceLoop deviceLoopDcc deviceLoopNoise
  rw [hc]
  split_ifs with h0 h1
  · obtain ⟨s, hs, hg⟩ := readoutLoop_stops Trigger.dcc_keepsClock fp.nbRfm c hv hf.le hn'
    exact ⟨s, hs, fun _ => hg⟩
  · obtain ⟨s, hs, hg⟩ := readoutLoop_stops Trigger.noise_keepsClock fp.nbRfm c hv hf.le hn'
    exact ⟨s, hs, fun _ => hg⟩
  · exact ⟨_, rfl, fun h => absurd h (by omega)⟩

/-- A board whose start and data flags never rise and whose command register never shows
`CMD_RESET_BCID`; the signal arrives before the third read of `g_state`. -/
def stuckWorld : World :=
  ⟨true, fun i => decide (i = 2), fun _ => Stream'.const 0, fun _ => [], fun _ => 0,
    fun _ _ => 0, 3, [], fun _ => 0, ackingNet 8, []⟩

theorem deviceStart_deviceLoop_stop_stuck_board :
    stuckWorld.StopsWithin 3 ∧ (∀ fd, (stuckWorld.net fd).Live) ∧ 3 < 4 ∧
      ∃ r c v, deviceStart board 4 twoSlots 7 stuckWorld = some (r, c, v) ∧
        ∃ s, deviceLoop board 4 c v = some s ∧
          (twoSlots.trigMode = 0 ∨ twoSlots.trigMode = 1 → s.2.gState = false) :=
  have hk : stuckWorld.StopsWithin 3 := ⟨2, by decide, .inr rfl⟩
  have hn : ∀ fd, (stuckWorld.net fd).Live := ackingNet_live 8
  ⟨hk, hn, by decide, deviceStart_deviceLoop_stop board twoSlots 7 stuckWorld hk hn 4 (by decide)⟩

end EdaDaq
