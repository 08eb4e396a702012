import EdaDaq.Config
import EdaDaq.Handles

/-!
# What a failed `device_initialize` leaves behind

`device_init_mmap` cleans up after itself: when a bridge mapping fails it unmaps what it mapped,
closes `/dev/mem` and sets `mem_fd` back to `0` (`deviceInitMmap_releases`). The steps after it
do not: `device_init_hrsc_from_csv` closes its history file only when every active slot was
configured (`deviceInitHrscFromCsv_history`), and `device_init_scks` closes no socket.
`deviceInitialize_failure_leaks` replays two failing initialisations.
-/

namespace EdaDaq

/-- A board whose PLL locks at its first reading, whose fallible calls return `rs` in order and
then `0`, and whose C library hands out descriptors from `3`. -/
def scriptedWorld (rs : List Int) : World :=
  ⟨true, fun _ => false, fun _ _ => 1, fun _ => [], fun i => rs.getD i 0, fun _ _ => 0, 3, [],
    fun _ => 0, ackingNet 8, []⟩

/-- Slot 0 booted as module 5, in the `csv` configuration mode of `new_device`. -/
def bootedSlot : Device := (runConfig board [.bootRfm 5 0 0 0] Device.blank (initWorld [])).2.1

/-! ## `device_init_mmap` -/

/-- `device_init_mmap` either maps both bridges through the next descriptor and stores it in
`mem_fd`, or returns `-1` with `mem_fd` set to `0` and everything it acquired released: nothing,
when `/dev/mem` does not open; the descriptor, when the first mapping fails; the first mapping and
the descriptor, when the second fails. It takes at most that one descriptor. -/
theorem deviceInitMmap_releases (ctx : Device) (w : World) :
    w.fresh ≤ (deviceInitMmap ctx w).2.2.fresh ∧
    (((deviceInitMmap ctx w).1 = -1 ∧ (deviceInitMmap ctx w).2.1 = { ctx with memFd := 0 } ∧
      ((deviceInitMmap ctx w).2.2.calls = w.calls ∨
        (deviceInitMmap ctx w).2.2.calls =
          w.calls ++ [.openMem w.fresh, .mmapLw w.fresh, .close w.fresh] ∨
        (deviceInitMmap ctx w).2.2.calls = w.calls ++ [.openMem w.fresh, .mmapLw w.fresh,
          .mmapH2f w.fresh, .munmapLw w.fresh, .close w.fresh])) ∨
    ((deviceInitMmap ctx w).1 = 0 ∧ (deviceInitMmap ctx w).2.1 = { ctx with memFd := w.fresh } ∧
      (deviceInitMmap ctx w).2.2.calls =
        w.calls ++ [.openMem w.fresh, .mmapLw w.fresh, .mmapH2f w.fresh] ∧
      (deviceInitMmap ctx w).2.2.fresh = w.fresh + 1)) := by
  unfold deviceInitMmap
  rcases hg : w.grant with ⟨_ | f, v⟩
  · -- `/dev/mem` does not open
    obtain ⟨hf, hc⟩ := World.grant_le hg
    exact ⟨hf, .inl ⟨rfl, rfl, .inl hc⟩⟩
  · unfold World.grant at hg
    split_ifs at hg <;> cases hg
    dsimp only [World.result]
    split_ifs
    · exact ⟨by simp [World.call], .inl ⟨rfl, rfl, .inr (.inl (by simp [World.call]))⟩⟩
    · exact ⟨by simp [World.call], .inl ⟨rfl, rfl, .inr (.inr (by simp [World.call]))⟩⟩
    · exact ⟨by simp [World.call], .inr ⟨rfl, rfl, by simp [World.call], rfl⟩⟩

/-! ## The history file of `device_init_hrsc_from_csv` -/

/-- The tuning loop opens and closes no file when what it does after each slot does not. -/
theorem tuneSlots_filesKept (fp : Fpga) (ctx : Device) (delta : Word)
    {after : Nat → World → World} (hafter : ∀ i (w : World), w.FilesKept (after i w)) :
    ∀ (is : List Nat) (w : World), w.FilesKept (tuneSlots fp ctx delta after is w).2
  | [], w => .of_eq rfl
  | i :: is, w => by
    have k1 : w.FilesKept ((w.call (tuning fp ctx delta i)).call (.hrscSetConfig i)).result.2 :=
      (World.FilesKept.call fun _ => by rfl).trans ((World.FilesKept.call fun _ => by rfl).trans
        (.of_eq rfl))
    have k2 : w.FilesKept
        ((((w.call (tuning fp ctx delta i)).call (.hrscSetConfig i)).result.2.call
          (.hrscResetReadRegisters i)).result.2) :=
      k1.trans ((World.FilesKept.call fun _ => by rfl).trans (.of_eq rfl))
    rw [tuneSlots]
    split_ifs
    · dsimp only
      split_ifs
      · exact k1
      · exact k2
      · exact k2.trans ((hafter i _).trans (tuneSlots_filesKept fp ctx delta hafter is _))
    · exact tuneSlots_filesKept fp ctx delta hafter is w

/-- When the history file opens, `device_init_hrsc_from_csv` closes it exactly when every active
slot was configured: a slot whose `HRSC_set_config` or `HRSC_reset_read_registers` fails returns
with the file still open. -/
theorem deviceInitHrscFromCsv_history (fp : Fpga) (ctx : Device) (w : World)
    (hg : 0 ≤ w.status.head) :
    ∃ new, (deviceInitHrscFromCsv fp ctx w).2.calls = w.calls ++ new ∧
      ((∀ r ∈ w.status.tail.take (2 * (activeSlots fp.nbRfm ctx.rfmOn).length), 0 ≤ r) →
        ∀ files, openFiles files new = some files) ∧
      (¬ (∀ r ∈ w.status.tail.take (2 * (activeSlots fp.nbRfm ctx.rfmOn).length), 0 ≤ r) →
        ∀ files, openFiles files new = some (w.fresh :: files)) := by
  have hafter : ∀ i (v : World), v.call (.hrscWriteConf w.fresh i) =
      { v with calls := v.calls ++ [.hrscWriteConf w.fresh i] } := fun _ _ => rfl
  have hkeep : ∀ i (v : World), v.FilesKept (v.call (.hrscWriteConf w.fresh i)) :=
    fun _ _ => .call fun _ => rfl
  have hcopies : ∀ files, openFiles files ([1, 2, 3, 4, 5, 6, 7].map (.hrscCopyConf 0)) =
      some files := fun _ => rfl
  unfold deviceInitHrscFromCsv
  dsimp only
  rw [foldl_call]
  rcases hgr :
      World.grant { w with calls := w.calls ++ [1, 2, 3, 4, 5, 6, 7].map (.hrscCopyConf 0) }
    with ⟨_ | f, W⟩
  · have hneg := World.grant_none hgr
    exact absurd hg (not_le.mpr hneg)
  obtain ⟨rfl, hWc, hWs⟩ := World.grant_some hgr
  dsimp only at hWc hWs ⊢
  obtain ⟨mid, hmid, hmf⟩ := tuneSlots_filesKept fp ctx ctx.threshDelta hkeep
    (List.range fp.nbRfm) (W.call (.fopen w.fresh))
  have hspec := (tuneSlots_spec fp ctx ctx.threshDelta hafter (List.range fp.nbRfm)
    (W.call (.fopen w.fresh))).1
  rw [World.call_status, hWs] at hspec
  split_ifs with hr
  · -- a slot failed: the file stays open
    refine ⟨[1, 2, 3, 4, 5, 6, 7].map (.hrscCopyConf 0) ++ .fopen w.fresh :: mid, ?_,
      fun h => absurd (hspec.mpr h) hr, fun _ files => ?_⟩
    · rw [hmid, World.call_calls, hWc]; simp
    · simp only [openFiles_append, hcopies, Option.some_bind]
      exact hmf (w.fresh :: files)
  · -- every slot configured: the file is closed before the copy
    refine ⟨[1, 2, 3, 4, 5, 6, 7].map (.hrscCopyConf 0) ++ (.fopen w.fresh :: mid ++
      [.fclose w.fresh]) ++ [.system (historyCommand ctx.runCnt)], ?_, fun _ files => ?_,
      fun h => absurd (hspec.mp (not_not.mp hr)) h⟩
    · simp [World.result, hmid, hWc]
    · simp only [openFiles_append, hcopies, openFiles_bracket _ _ hmf, Option.some_bind]
      rfl

theorem deviceInitHrscFromCsv_history_slot_fails :
    0 ≤ (scriptedWorld [0, -1]).status.head ∧
      ∃ new, (deviceInitHrscFromCsv board bootedSlot (scriptedWorld [0, -1])).2.calls =
        (scriptedWorld [0, -1]).calls ++ new ∧ openFiles [] new = some [3] := by
  obtain ⟨new, hc, -, hopen⟩ :=
    deviceInitHrscFromCsv_history board bootedSlot (scriptedWorld [0, -1]) (by decide)
  exact ⟨by decide, new, hc, hopen (by decide) []⟩

/-! ## Two failing initialisations -/

/-- Two initialisations that fail after `device_init_mmap` succeeded. In the first the
configuration of slot 0 fails in `csv` mode: `device_initialize` returns `-1` with `/dev/mem`
open in `mem_fd`, both bridges mapped and the history file open. In the second `connect` fails
for slot 0: the socket opened for it stays in `task[0].sck`, and nothing is closed. -/
theorem deviceInitialize_failure_leaks :
    (deviceInitialize board bootedSlot (scriptedWorld [0, 1, 1, 0, -1])).map
        (fun r => (r.1, r.2.1.memFd, r.2.2.calls)) =
      some (-1, 3, [.openMem 3, .mmapLw 3, .mmapH2f 3, .resetFpga, .rfmOn 0, .rfmEnable 0,
        .selectCommandDcc, .enableDccBusy, .enableDccRamfull] ++ hrscCommonCalls bootedSlot ++
        [1, 2, 3, 4, 5, 6, 7].map (.hrscCopyConf 0) ++
        [.fopen 4, tuning board { bootedSlot with memFd := 3 } 0 0, .hrscSetConfig 0]) ∧
    (deviceInitialize board boundSlot (scriptedWorld [0, 1, 1, 0, 0, 0, 1, -1])).map
        (fun r => (r.1, r.2.1.memFd, (r.2.1.task 0).sck, r.2.2.calls)) =
      some (-1, 3, 4, [.openMem 3, .mmapLw 3, .mmapH2f 3, .resetFpga, .rfmOn 0, .rfmEnable 0,
        .selectCommandDcc, .enableDccBusy, .enableDccRamfull] ++ hrscCommonCalls boundSlot ++
        slotConfigCalls board { boundSlot with memFd := 3 } 0 (fun _ => []) 0 ++
        [.socket 4, .inetPton "10.0.0.5", .connect 4 "10.0.0.5" 8877 (-1)]) :=
  ⟨rfl, rfl⟩

end EdaDaq
