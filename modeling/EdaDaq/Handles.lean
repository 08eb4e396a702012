import EdaDaq.Lifecycle
import EdaDaq.Acquisition

/-!
# The files the device opens

A trace says which files are open: `fopen` opens one and `fclose` closes one. `openFiles` replays
a trace on a set of open files and fails at an `fclose` of a file that is not open, so
`openFiles s new = some s` says that the calls `new` close exactly the files they open, each once
and after opening it, and touch no other file. `device_configure` does so on every path, the
failing ones included, and so does every sequence of configuration calls
(`runConfig_filesKept`).

The run file is opened by `device_start` and closed by `device_stop`; the readout loops open and
close no file. So a run that `device_start` began with success, looped by `device_loop`, ended by
`device_stop` and released by `device_free` closes exactly the files it opens
(`deviceStart_closes_run_file`), while a second `device_stop` would close `NULL`
(`deviceStop_twice_closes_null`).
-/

namespace EdaDaq

/-- The files open after call `c`, from those in `files`; `none` when `c` closes a file that is
not open. -/
def Call.fileStep (files : List Nat) : Call → Option (List Nat)
  | .fopen f => some (f :: files)
  | .fclose f => if f ∈ files then some (files.erase f) else none
  | _ => some files

/-- The files open after the calls `cs`, from those in `files`; `none` when one of them closes a
file that is not open. -/
def openFiles (files : List Nat) (cs : List Call) : Option (List Nat) :=
  cs.foldlM Call.fileStep files

@[simp] theorem openFiles_nil (files : List Nat) : openFiles files [] = some files := rfl

@[simp] theorem openFiles_append (files : List Nat) (cs cs' : List Call) :
    openFiles files (cs ++ cs') = (openFiles files cs).bind fun s => openFiles s cs' :=
  List.foldlM_append ..

/-- `w'` is `w` after calls that close exactly the files they open. -/
def World.FilesKept (w w' : World) : Prop :=
  ∃ new, w'.calls = w.calls ++ new ∧ ∀ files, openFiles files new = some files

theorem World.FilesKept.of_eq {w w' : World} (h : w'.calls = w.calls) : w.FilesKept w' :=
  ⟨[], by rw [h, List.append_nil], fun _ => rfl⟩

theorem World.FilesKept.trans {w w' w'' : World} (h : w.FilesKept w') (h' : w'.FilesKept w'') :
    w.FilesKept w'' := by
  obtain ⟨new, hc, hf⟩ := h
  obtain ⟨new', hc', hf'⟩ := h'
  exact ⟨new ++ new', by rw [hc', hc, List.append_assoc], fun s => by simp [hf, hf']⟩

theorem World.FilesKept.call {w : World} {c : Call} (hc : ∀ files, c.fileStep files = some files) :
    w.FilesKept (w.call c) :=
  ⟨[c], rfl, fun files => by rw [openFiles, List.foldlM_cons, hc]; rfl⟩

/-- A file opened, used by calls that are not file calls, and closed. -/
theorem openFiles_bracket (f : Nat) (mid : List Call) (hmid : ∀ s, openFiles s mid = some s)
    (files : List Nat) : openFiles files (.fopen f :: mid ++ [.fclose f]) = some files := by
  rw [openFiles_append]
  show ((openFiles (f :: files) mid).bind fun s => openFiles s [.fclose f]) = _
  rw [hmid]
  simp [openFiles, Call.fileStep]

/-- Calls made for each element of a list, none of which opens or closes a file. -/
theorem openFiles_flatMap {α : Type} (g : α → List Call)
    (hg : ∀ a files, openFiles files (g a) = some files)
    (l : List α) (files : List Nat) : openFiles files (l.flatMap g) = some files := by
  induction l with
  | nil => rfl
  | cons a l ih => rw [List.flatMap_cons, openFiles_append, hg, Option.some_bind, ih]

/-- A slot loop that makes one call per slot, none of which opens or closes a file. -/
theorem forSlots_filesKept (p : Nat → Bool) (g : Nat → Call)
    (hg : ∀ i files, (g i).fileStep files = some files)
    (is : List Nat) (w : World) : w.FilesKept (forSlots p (fun i w => w.call (g i)) is w) :=
  ⟨_, congrArg World.calls (forSlots_record p (fun i => [g i]) is w),
    openFiles_flatMap _ (fun i files => by rw [openFiles, List.foldlM_cons, hg]; rfl) _⟩

/-- Calls none of which opens or closes a file keep the open files. -/
theorem openFiles_of_forall {cs : List Call} (h : ∀ c ∈ cs, ∀ files, c.fileStep files = some files)
    (files : List Nat) : openFiles files cs = some files := by
  induction cs generalizing files with
  | nil => rfl
  | cons c cs ih =>
    rw [openFiles, List.foldlM_cons, h c (List.mem_cons_self _ _)]
    exact ih (fun c hc => h c (List.mem_cons_of_mem _ hc)) files

theorem World.FilesKept.of_appends {p : Call → Bool} {w w' : World} (h : w.Appends p w')
    (hp : ∀ c, p c = true → ∀ files, c.fileStep files = some files) : w.FilesKept w' :=
  let ⟨new, hc, hn⟩ := h
  ⟨new, hc, openFiles_of_forall fun c hm => hp c (hn c hm)⟩

/-- A readout loop makes no file call and keeps the run file. -/
theorem deviceLoop_filesKept {fp : Fpga} {n : Nat} {ctx : Device} {w : World} {s : Device × World}
    (h : deviceLoop fp n ctx w = some s) : w.FilesKept s.2 ∧ s.1.daqFile = ctx.daqFile := by
  obtain ⟨ha, -, hf, -⟩ := deviceLoop_readoutOnly h
  exact ⟨.of_appends ha fun c hc _ => (by cases c <;> first | rfl | cases hc), hf⟩

/-! ## The run file over a run -/

theorem fifoInits_filesKept (fp : Fpga) (ctx : Device) (w : World) : w.FilesKept (fifoInits fp ctx w) :=
  forSlots_filesKept (rfmActive ctx.rfmOn) Call.fifoInit (fun _ _ => rfl) _ w

/-- A `device_start` that returns `0` opened one file, the run file it records in `daq_file`, and
made no other file call. -/
theorem deviceStart_opens_run_file {fp : Fpga} {fuel : Nat} {ctx c : Device} {run : Word}
    {w v : World} (h : deviceStart fp fuel ctx run w = some (0, c, v)) :
    ∃ mid, v.calls = w.calls ++ .fopen c.daqFile :: mid ∧
      ∀ files, openFiles files mid = some files := by
  unfold deviceStart at h
  rcases hg : w.grant with ⟨_ | f, w1⟩
  · simp [deviceInitRun, hg] at h
  have hw1 : w1.calls = w.calls := by simpa [hg] using World.grant_calls w
  let w2 := (w1.call (.fopen f)).call .resetHr
  suffices hs : c.daqFile = f ∧ w2.FilesKept v by
    obtain ⟨hf, new, hn, hk⟩ := hs
    exact ⟨.resetHr :: new, by rw [hn, hf]; simp [w2, hw1], hk⟩
  simp only [deviceInitRun, hg, ne_eq, not_true_eq_false, if_false] at h
  split_ifs at h
  · obtain ⟨u, hu, ⟨-, -, rfl, rfl⟩ | ⟨-, h0, -⟩⟩ := deviceStartRunDcc_cases h
    · have hu' : w2.FilesKept u.pollGState.2 := .of_eq (waitResetBcid_spec _ hu).1
      exact ⟨rfl, hu'.trans ((World.FilesKept.call fun _ => by rfl).trans
        ((World.FilesKept.call fun _ => by rfl).trans
          ((fifoInits_filesKept _ _ _).trans (.call fun _ => by rfl))))⟩
    · simp at h0
  · simp only [deviceStartRunNoise, Option.some.injEq, Prod.mk.injEq] at h
    obtain ⟨-, rfl, rfl⟩ := h
    exact ⟨rfl, (fifoInits_filesKept _ _ _).trans ((World.FilesKept.call fun _ => by rfl).trans
      ((World.FilesKept.call fun _ => by rfl).trans ((World.FilesKept.call fun _ => by rfl).trans
        (.call fun _ => by rfl))))⟩
  · simp at h

/-- `device_stop` closes the run file and makes no other file call, and leaves `daq_file` `NULL`. -/
theorem deviceStop_closes_run_file (ctx : Device) (w : World) :
    ∃ w0, w.FilesKept w0 ∧ (deviceStop ctx w).2.2 = w0.call (.fclose ctx.daqFile) ∧
      (deviceStop ctx w).2.1.daqFile = 0 := by
  refine ⟨_, ?_, rfl, rfl⟩
  have h0 : w.FilesKept (if ctx.trigMode = 0 then w.call .cntStop else w) := by
    split
    · exact .call fun _ => by rfl
    · exact .of_eq rfl
  have h1 : ∀ v : World,
      v.FilesKept (if ctx.trigMode = 1 then (v.call .stopAcq).call .cntStop else v) := by
    intro v
    split
    · exact (World.FilesKept.call fun _ => by rfl).trans (.call fun _ => by rfl)
    · exact .of_eq rfl
  exact h0.trans ((h1 _).trans ((World.FilesKept.call fun _ => by rfl).trans
    ((World.FilesKept.call fun _ => by rfl).trans (.call fun _ => by rfl))))

/-- With `daq_file` `NULL`, `device_free` closes no file. -/
theorem deviceFree_filesKept (fp : Fpga) (ctx : Device) (w : World) (h : ctx.daqFile = 0) :
    w.FilesKept (deviceFree fp ctx w) := by
  simp only [deviceFree, h, ne_eq, not_true_eq_false, if_false]
  have hm : w.FilesKept (if ctx.memFd ≠ 0 then
      ((w.call (.munmapLw ctx.memFd)).call (.munmapH2f ctx.memFd)).call (.close ctx.memFd) else w) := by
    split
    · exact (World.FilesKept.call fun _ => by rfl).trans ((World.FilesKept.call fun _ => by rfl).trans
        (.call fun _ => by rfl))
    · exact .of_eq rfl
  exact hm.trans (forSlots_filesKept _ (fun i => .close (ctx.task i).sck) (fun _ _ => rfl) _ _)

/-- A run begun by a `device_start` that returns `0`, looped by `device_loop`, ended by
`device_stop` and released by `device_free` closes exactly the files it opens, each once and after
opening it: the run file `device_start` opened is closed by `device_stop`, and by nothing else. -/
theorem deviceStart_closes_run_file (fp : Fpga) (fuel n : Nat) (ctx : Device) (run : Word)
    (w : World) {c : Device} {v : World} {s : Device × World}
    (hs : deviceStart fp fuel ctx run w = some (0, c, v)) (hl : deviceLoop fp n c v = some s) :
    ∃ new, (deviceFree fp (deviceStop s.1 s.2).2.1 (deviceStop s.1 s.2).2.2).calls =
        w.calls ++ new ∧ ∀ files, openFiles files new = some files := by
  obtain ⟨mid, hv, hmid⟩ := deviceStart_opens_run_file hs
  obtain ⟨⟨lnew, hl1, hl2⟩, hf⟩ := deviceLoop_filesKept hl
  obtain ⟨w0, ⟨pre, hp1, hp2⟩, hstop, hzero⟩ := deviceStop_closes_run_file s.1 s.2
  obtain ⟨post, hq1, hq2⟩ := deviceFree_filesKept fp _ _ hzero
  refine ⟨(.fopen c.daqFile :: (mid ++ lnew ++ pre) ++ [.fclose c.daqFile]) ++ post, ?_,
    fun files => ?_⟩
  · rw [hq1, hstop, World.call_calls, hp1, hl1, hv, hf]
    simp
  · rw [openFiles_append, openFiles_bracket _ _ (fun t => by simp [hmid, hl2, hp2]),
      Option.some_bind, hq2]

theorem deviceStart_closes_run_file_noise :
    ∃ c v s, deviceStart board 3 { twoSlots with trigMode := 1 } 7 (readyWorld 5) = some (0, c, v) ∧
      deviceLoop board 3 c v = some s ∧
      ∃ new, (deviceFree board (deviceStop s.1 s.2).2.1 (deviceStop s.1 s.2).2.2).calls =
          (readyWorld 5).calls ++ new ∧ ∀ files, openFiles files new = some files :=
  ⟨_, _, _, rfl, rfl,
    deviceStart_closes_run_file board 3 3 { twoSlots with trigMode := 1 } 7 (readyWorld 5) rfl rfl⟩

end EdaDaq
