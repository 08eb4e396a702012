import EdaDaq.Config

/-!
# Starting and stopping a run

`device_start` opens the run file (`device_init_run`) and arms the acquisition for the trigger
mode: in mode 0 it first waits for the DCC to send the reset-BCID command. `device_stop` stops
the counters and the acquisition, resets the board and closes the run file; `device_free`
releases what the context still holds.

The reset-BCID wait of `device_start_run_dcc` reads the command register once to see it change
and once more to learn the new command, so a reset-BCID command that is replaced before the
second read is missed (`deviceStartRunDcc_misses_reset`). `device_stop` closes the run file
without looking at it, and sets it to `NULL`, so a second stop closes `NULL`
(`deviceStop_twice_closes_null`).
-/

namespace EdaDaq

/-! ## Starting -/

/-- `device_init_run`: the run number, a new run file, and `cycle_id = 0`. `daq_file` is
overwritten whether or not a file is open. -/
def deviceInitRun (ctx : Device) (run : Word) (w : World) : Int × Device × World :=
  let ctx := { ctx with runCnt := run.toInt }
  match w.grant with
  | (none, w) => (-1, { ctx with daqFile := 0 }, w)
  | (some f, w) => (0, { ctx with daqFile := f, cycleId := 0 }, (w.call (.fopen f)).call .resetHr)

/-- The reset-BCID loop of `device_start_run_dcc` entered with `dcc_cmd = cmd`:
`while (dcc_cmd != CMD_RESET_BCID)` around a wait for the register to leave `dcc_cmd`, a second
read `dcc_cmd = SYNC_dcc_cmd_mem()`, and `if (g_state == 0) break;`. -/
def waitResetBcid (fp : Fpga) : Nat → Word → World → Option World
  | 0, _, _ => none
  | fuel + 1, cmd, w =>
    if cmd = fp.cmdResetBcid then some w else
    match busyWait .dccCmd cmd fuel w with
    | none => none
    | some w =>
      let (cmd, w) := w.read .dccCmd
      let (run, w) := w.pollGState
      if run then waitResetBcid fp fuel cmd w else some w

/-- `DAQ_fifo_init(i)` for every active slot. -/
def fifoInits (fp : Fpga) (ctx : Device) (w : World) : World :=
  forSlots (rfmActive ctx.rfmOn) (fun i w => w.call (.fifoInit i)) (List.range fp.nbRfm) w

theorem fifoInits_eq (fp : Fpga) (ctx : Device) (w : World) :
    fifoInits fp ctx w =
      { w with calls := w.calls ++ (activeSlots fp.nbRfm ctx.rfmOn).map .fifoInit } := by
  rw [List.map_eq_flatMap]
  exact forSlots_record _ (fun i => [.fifoInit i]) _ w

/-- `device_start_run_dcc`: the reset-BCID wait from `dcc_cmd = 0xE`; `-1` when `g_state` is
`0` after it; otherwise the counters, the FIFOs of the active slots, and `cycle_id = 0`. -/
def deviceStartRunDcc (fp : Fpga) (fuel : Nat) (ctx : Device) (w : World) :
    Option (Int × Device × World) :=
  (waitResetBcid fp fuel 0xE w).map fun w =>
    let (run, w) := w.pollGState
    if !run then (-1, ctx, w) else
    let w := fifoInits fp ctx ((w.call .cntReset).call .cntStart)
    (0, { ctx with cycleId := 0 }, w.call .fifoArming)

/-- `device_start_run_noise`. -/
def deviceStartRunNoise (fp : Fpga) (ctx : Device) (w : World) : Int × Device × World :=
  let w := ((fifoInits fp ctx w).call .cntReset).call .resetBcid
  (0, { ctx with cycleId := 0 }, (w.call .startAcq).call .fifoArming)

/-- `device_start`. -/
def deviceStart (fp : Fpga) (fuel : Nat) (ctx : Device) (run : Word) (w : World) :
    Option (Int × Device × World) :=
  let (err, ctx, w) := deviceInitRun ctx run w
  if err ≠ 0 then some (err, ctx, w)
  else if ctx.trigMode = 0 then deviceStartRunDcc fp fuel ctx w
  else if ctx.trigMode = 1 then some (deviceStartRunNoise fp ctx w)
  else some (-1, ctx, w)

/-! ## The missed reset-BCID command -/

theorem busyWait_spin {r : Reg} {v : Word} {k : Nat} {w : World} (h : (w.read r).1 = v) :
    busyWait r v (k + 1) w =
      if (w.read r).2.pollGState.1 then busyWait r v k (w.read r).2.pollGState.2
      else some (w.read r).2.pollGState.2 := by
  rw [busyWait.eq_2]
  dsimp only
  rw [if_pos h]

theorem read_fst_of_const {r : Reg} {v : Word} {w : World} (h : w.regs r = Stream'.const v) :
    (w.read r).1 = v := by
  show (w.regs r).head = v
  rw [h]
  rfl

theorem read_regs_of_const {r : Reg} {v : Word} {w : World} (h : w.regs r = Stream'.const v) :
    (w.read r).2.regs r = Stream'.const v := by
  simp only [World.read, Function.update_same, h]; rfl

/-- A wait on a register that keeps showing the value it waits on ends exactly when a signal
clears `g_state`. -/
theorem busyWait_until_signal (r : Reg) (v : Word) (m : Nat) {fuel : Nat} {w : World}
    (hr : w.regs r = Stream'.const v) (hg : w.gState = true)
    (hs : ∀ i < m, w.signal i = false) (hm : w.signal m = true) (hf : m < fuel) :
    ∃ w', busyWait r v fuel w = some w' ∧ w'.gState = false := by
  obtain ⟨k, rfl⟩ : ∃ k, fuel = k + 1 := ⟨fuel - 1, by omega⟩
  rw [busyWait_spin (read_fst_of_const hr)]
  induction m generalizing k w with
  | zero =>
    have hstop : (w.read r).2.pollGState.1 = false := by
      show (w.gState && !w.signal 0) = false
      rw [hm, Bool.not_true, Bool.and_false]
    rw [if_neg (by simp [hstop])]
    exact ⟨_, rfl, hstop⟩
  | succ m ih =>
    have hrun : (w.read r).2.pollGState.1 = true := by
      show (w.gState && !w.signal 0) = true
      rw [hg, hs 0 (by omega)]
      rfl
    obtain ⟨k, rfl⟩ : ∃ j, k = j + 1 := ⟨k - 1, by omega⟩
    rw [if_pos hrun, busyWait_spin (w := (w.read r).2.pollGState.2)
      (read_fst_of_const (read_regs_of_const hr))]
    exact ih (w := (w.read r).2.pollGState.2) (read_regs_of_const hr) hrun
      (fun i hi => hs (i + 1) (by omega)) hm k (by omega)

theorem busyWait_exit {r : Reg} {v : Word} {k : Nat} {w : World} (h : (w.read r).1 ≠ v) :
    busyWait r v (k + 1) w = some (w.read r).2 := by
  rw [busyWait.eq_2]
  dsimp only
  rw [if_neg h]

theorem waitResetBcid_succ {fp : Fpga} {k : Nat} {cmd : Word} {w : World}
    (hc : cmd ≠ fp.cmdResetBcid) :
    waitResetBcid fp (k + 1) cmd w = (busyWait .dccCmd cmd k w).bind fun w =>
      if (w.read .dccCmd).2.pollGState.1 then
        waitResetBcid fp k (w.read .dccCmd).1 (w.read .dccCmd).2.pollGState.2
      else some (w.read .dccCmd).2.pollGState.2 := by
  rw [waitResetBcid.eq_2, if_neg hc]
  cases busyWait .dccCmd cmd k w <;> rfl

/-- The reset-BCID wait makes no call and ends in one of three ways: with `g_state` cleared; at
once, when it is entered with `CMD_RESET_BCID`; or when the `k + 1`-th read of the command
register, its last, returned `CMD_RESET_BCID`. -/
theorem waitResetBcid_spec (fp : Fpga) {fuel : Nat} {cmd : Word} {w v : World}
    (h : waitResetBcid fp fuel cmd w = some v) :
    v.calls = w.calls ∧ (v.gState = false ∨ (cmd = fp.cmdResetBcid ∧ v = w) ∨
      ∃ k, v.regs .dccCmd = (w.regs .dccCmd).drop (k + 1) ∧
        (w.regs .dccCmd).get k = fp.cmdResetBcid) := by
  induction fuel generalizing cmd w with
  | zero => cases h
  | succ n ih =>
    by_cases hc : cmd = fp.cmdResetBcid
    · rw [waitResetBcid.eq_2, if_pos hc] at h
      cases h
      exact ⟨rfl, .inr (.inl ⟨hc, rfl⟩)⟩
    rw [waitResetBcid_succ hc] at h
    obtain ⟨u, hu, h⟩ := Option.bind_eq_some.mp h
    obtain ⟨g, sig, j, hu'⟩ := busyWait_frame hu
    have hur : u.regs .dccCmd = (w.regs .dccCmd).drop (j + 1) := by
      rw [hu']; exact Function.update_same Reg.dccCmd _ w.regs
    -- the read after the wait is the `j + 2`-th
    have hreg : ((u.read .dccCmd).2.pollGState.2).regs .dccCmd = (w.regs .dccCmd).drop (j + 2) := by
      rw [World.pollGState_regs, World.read_regs_self, hur, Stream'.tail_drop']
    have hval : (u.read .dccCmd).1 = (w.regs .dccCmd).get (j + 1) := by
      show (u.regs .dccCmd).head = _
      rw [hur, Stream'.head_drop]
    have hcalls : ((u.read .dccCmd).2.pollGState.2).calls = w.calls := by simp [busyWait_calls hu]
    split_ifs at h with hrun
    · obtain ⟨hv, hor⟩ := ih h
      refine ⟨hv.trans hcalls, ?_⟩
      rcases hor with hg | ⟨hr, rfl⟩ | ⟨k, hk, hget⟩
      · exact .inl hg
      · exact .inr (.inr ⟨j + 1, hreg, hval ▸ hr⟩)
      · refine .inr (.inr ⟨k + j + 2, ?_, ?_⟩)
        · rw [hk, hreg, Stream'.drop_drop, show k + 1 + (j + 2) = k + j + 2 + 1 by omega]
        · rw [← hget, hreg, Stream'.get_drop, Nat.add_assoc]
    · cases h
      exact ⟨hcalls, .inl (by simpa using hrun)⟩

/-- What `device_start_run_dcc` can do once its reset-BCID wait has ended: go on with `g_state`
still set, or return `-1`. -/
theorem deviceStartRunDcc_cases {fp : Fpga} {fuel : Nat} {ctx c : Device} {w v : World} {r : Int}
    (h : deviceStartRunDcc fp fuel ctx w = some (r, c, v)) :
    ∃ u, waitResetBcid fp fuel 0xE w = some u ∧
      ((u.pollGState.1 = true ∧ r = 0 ∧ c = { ctx with cycleId := 0 } ∧
          v = (fifoInits fp ctx ((u.pollGState.2.call .cntReset).call .cntStart)).call .fifoArming) ∨
        (u.pollGState.1 = false ∧ r = -1 ∧ c = ctx ∧ v = u.pollGState.2)) := by
  obtain ⟨u, hu, h⟩ := Option.map_eq_some'.mp h
  refine ⟨u, hu, ?_⟩
  by_cases hrun : u.pollGState.1
  · simp only [hrun, Bool.not_true, Bool.false_eq_true, if_false, Prod.mk.injEq] at h
    obtain ⟨rfl, rfl, rfl⟩ := h
    exact .inl ⟨hrun, rfl, rfl, rfl⟩
  · simp only [hrun, Bool.not_false, if_true, Prod.mk.injEq] at h
    obtain ⟨rfl, rfl, rfl⟩ := h
    exact .inr ⟨by simpa using hrun, rfl, rfl, rfl⟩

/-- When `CMD_RESET_BCID` is not `0xE`, `device_start_run_dcc` returns `0` only when the last of
its reads of the command register returned `CMD_RESET_BCID`, and it has then reset and started
the counters, initialised the FIFO of every active slot in ascending order, armed the FIFOs and set
`cycle_id = 0`. Otherwise it returns `-1`, with `g_state` cleared and no call made. -/
theorem deviceStartRunDcc_spec (fp : Fpga) (hc : fp.cmdResetBcid ≠ 0xE) (fuel : Nat) (ctx : Device)
    (w : World) {r : Int} {ctx' : Device} {w' : World}
    (h : deviceStartRunDcc fp fuel ctx w = some (r, ctx', w')) :
    (r = 0 ∧ (∃ k, w'.regs .dccCmd = (w.regs .dccCmd).drop (k + 1) ∧
        (w.regs .dccCmd).get k = fp.cmdResetBcid) ∧ ctx' = { ctx with cycleId := 0 } ∧
      w'.calls = w.calls ++ .cntReset :: .cntStart ::
        (activeSlots fp.nbRfm ctx.rfmOn).map .fifoInit ++ [.fifoArming]) ∨
    (r = -1 ∧ ctx' = ctx ∧ w'.gState = false ∧ w'.calls = w.calls) := by
  obtain ⟨v, hv, ⟨hrun, rfl, rfl, rfl⟩ | ⟨hrun, rfl, rfl, rfl⟩⟩ := deviceStartRunDcc_cases h
  all_goals obtain ⟨hcalls, hor⟩ := waitResetBcid_spec fp hv
  · have hg : v.gState = true := ((Bool.and_eq_true _ _).mp hrun).1
    rcases hor with hg' | ⟨h0, -⟩ | ⟨k, hk, hget⟩
    · simp [hg] at hg'
    · exact absurd h0.symm hc
    · exact .inl ⟨rfl, ⟨k, by rw [fifoInits_eq]; exact hk, hget⟩, rfl,
        by simp [fifoInits_eq, hcalls]⟩
  · exact .inr ⟨rfl, rfl, by simpa [World.pollGState] using hrun, hcalls⟩

/-- A command register that shows `1`, then `CMD_RESET_BCID` of `board`, then `0`; no signal. -/
def resetWorld : World :=
  ⟨true, fun _ => false,
    Function.update (fun _ => Stream'.const 1) .dccCmd
      (Stream'.cons 1 (Stream'.cons 4 (Stream'.const 0))),
    fun _ => [], fun _ => 0, fun _ _ => 0, 3, [], fun _ => 0, ackingNet 8, []⟩

theorem deviceStartRunDcc_spec_reads_reset :
    ∃ c v, deviceStartRunDcc board 3 twoSlots resetWorld = some (0, c, v) ∧
      ∃ k, v.regs .dccCmd = (resetWorld.regs .dccCmd).drop (k + 1) ∧
        (resetWorld.regs .dccCmd).get k = board.cmdResetBcid :=
  ⟨_, _, rfl, ((deviceStartRunDcc_spec board (by decide) 3 twoSlots resetWorld rfl).resolve_right
    fun h => absurd h.1 (by decide)).2.1⟩

/-- If `CMD_RESET_BCID` is not `0xE` and the command register shows it once and then `0xE`
again, the reset is missed: `device_start_run_dcc` waits for another change, and when a signal
ends the wait it returns `-1`. -/
theorem deviceStartRunDcc_misses_reset (fp : Fpga) (hc : fp.cmdResetBcid ≠ 0xE) (n : Nat)
    (ctx : Device) (w : World) (hg : w.gState = true)
    (hr : w.regs .dccCmd = Stream'.cons fp.cmdResetBcid (Stream'.const 0xE))
    (hs : w.signal = fun i => decide (i = n)) :
    (deviceStartRunDcc fp (n + 3) ctx w).map (·.1) = some (-1) := by
  suffices h : ∃ v, waitResetBcid fp (n + 3) 0xE w = some v ∧ v.gState = false by
    obtain ⟨v, hv, hvg⟩ := h
    rw [deviceStartRunDcc, hv]
    simp [World.pollGState, hvg]
  -- the first read sees the reset command and ends the wait for a change
  have hfirst : busyWait .dccCmd 0xE (n + 2) w = some (w.read .dccCmd).2 :=
    busyWait_exit (by show (w.regs .dccCmd).head ≠ 0xE; rw [hr]; exact hc)
  -- the second read, the one compared, sees `0xE` again
  have hr1 : (w.read .dccCmd).2.regs .dccCmd = Stream'.const 0xE := by
    simp only [World.read, Function.update_same, hr]; rfl
  let w3 := ((w.read .dccCmd).2.read .dccCmd).2.pollGState.2
  rw [waitResetBcid_succ (Ne.symm hc), hfirst, Option.some_bind, read_fst_of_const hr1]
  cases n with
  | zero =>
    have hstop : ((w.read .dccCmd).2.read .dccCmd).2.pollGState.1 = false := by
      show (w.gState && !w.signal 0) = false
      rw [hs]
      simp
    rw [if_neg (by simp [hstop])]
    exact ⟨_, rfl, hstop⟩
  | succ m =>
    have hrun : ((w.read .dccCmd).2.read .dccCmd).2.pollGState.1 = true := by
      show (w.gState && !w.signal 0) = true
      rw [hs, hg]
      simp
    obtain ⟨v, hv, hvg⟩ := @busyWait_until_signal .dccCmd 0xE m (m + 2) w3
      (read_regs_of_const hr1) hrun
      (fun i hi => by show w.signal (i + 1) = false; rw [hs]; exact decide_eq_false (by omega))
      (by show w.signal (m + 1) = true; rw [hs]; exact decide_eq_true rfl) (by omega)
    rw [if_pos hrun, waitResetBcid_succ (Ne.symm hc), hv, Option.some_bind]
    have hc' := World.pollGState_of_cleared (w := (v.read .dccCmd).2) hvg
    rw [if_neg (by simp [hc'.1])]
    exact ⟨_, rfl, hc'.2⟩

theorem deviceStartRunDcc_misses_reset_after_two_polls :
    (deviceStartRunDcc board 5 Device.blank
        ⟨true, fun i => decide (i = 2),
          Function.update (fun _ => Stream'.const 1) .dccCmd (Stream'.cons 4 (Stream'.const 0xE)),
          fun _ => [], fun _ => 0, fun _ _ => 0, 3, [], fun _ => 0, ackingNet 8, []⟩).map (·.1) = some (-1) :=
  deviceStartRunDcc_misses_reset board (by decide) 2 Device.blank _ rfl rfl rfl

/-! ## Stopping and freeing -/

/-- `device_stop`: the counters and the acquisition of the trigger mode, the board resets, and
`fclose(ctx->daq_file)` with no check, after which `daq_file` is `NULL`. -/
def deviceStop (ctx : Device) (w : World) : Int × Device × World :=
  let w := if ctx.trigMode = 0 then w.call .cntStop else w
  let w := if ctx.trigMode = 1 then (w.call .stopAcq).call .cntStop else w
  let w := ((w.call .cntReset).call .resetFpga).call .resetHr
  (0, { ctx with daqFile := 0 }, w.call (.fclose ctx.daqFile))

/-- `device_stop_loop`: `g_state = 0`. -/
def deviceStopLoop (w : World) : World := { w with gState := false }

/-- `device_free`: the bridges and `/dev/mem` when `mem_fd != 0`, the run file when it is not
`NULL`, and every slot's socket that is not `0`. -/
def deviceFree (fp : Fpga) (ctx : Device) (w : World) : World :=
  let w := if ctx.memFd ≠ 0 then
    ((w.call (.munmapLw ctx.memFd)).call (.munmapH2f ctx.memFd)).call (.close ctx.memFd) else w
  let w := if ctx.daqFile ≠ 0 then w.call (.fclose ctx.daqFile) else w
  forSlots (fun i => (ctx.task i).sck != 0) (fun i w => w.call (.close (ctx.task i).sck))
    (List.range fp.nbRfm) w

/-- Whatever happens between them, a second `device_stop` ends with `fclose(NULL)`. -/
theorem deviceStop_twice_closes_null (ctx : Device) (w w' : World) :
    (deviceStop (deviceStop ctx w).2.1 w').2.2.calls.getLast? = some (.fclose 0) := by
  simp [deviceStop]

end EdaDaq
