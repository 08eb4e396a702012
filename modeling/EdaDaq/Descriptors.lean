import EdaDaq.InitFailure
import EdaDaq.Isolation

/-!
# The descriptors the device holds

`open("/dev/mem")` and `socket` give the device a descriptor and `close` gives one back. `openFds`
replays a trace on the descriptors open and fails at a `close` of a descriptor that is not open.
`device_init_mmap` keeps `/dev/mem` open in `mem_fd` once both bridges are mapped, and
`device_init_scks` keeps each booted slot's socket in its `sck`, where it also stores the `-1` of
a failed `socket` before it returns. `device_free` closes `mem_fd` when it is not `0` and every
`sck` that is not `0`, in slot order.

So after any outcome of `device_initialize` on a context reached by configuration calls,
`device_free` closes exactly the descriptors the device opened, each once, unless a `socket` call
failed: it then also closes that `-1`, which it never opened (`deviceFree_after_initialize`).
Over a whole successful life, from `device_initialize` to `device_free`, every descriptor and every
file opened is closed exactly once (`deviceInitialize_life_releases_handles`), and so over a whole
session from `new_device`, whose configuration calls open no descriptor and close the files they
open (`newDevice_session_releases_handles`). The descriptors are
handed out one after the other, so every slot that holds a socket holds its own, and what the
consumer on one slot's socket does reaches no other slot's task (`deviceInitialize_isolates_slots`).
All of them rest on the library never handing out descriptor `0`, which the process holds as its
standard input.
-/

namespace EdaDaq

/-! ## The ledger of descriptors -/

/-- The descriptors open after call `c`, from those in `fds`; `none` when `c` closes a descriptor
that is not open. -/
def Call.fdStep (fds : List Int) : Call → Option (List Int)
  | .openMem fd | .socket fd => some (fd :: fds)
  | .close fd => if fd ∈ fds then some (fds.erase fd) else none
  | _ => some fds

/-- The descriptors open after the calls `cs`, from those in `fds`; `none` when one of them closes
a descriptor that is not open. -/
def openFds (fds : List Int) (cs : List Call) : Option (List Int) :=
  cs.foldlM Call.fdStep fds

@[simp] theorem openFds_nil (fds : List Int) : openFds fds [] = some fds := rfl

@[simp] theorem openFds_cons (fds : List Int) (c : Call) (cs : List Call) :
    openFds fds (c :: cs) = (c.fdStep fds).bind fun s => openFds s cs :=
  List.foldlM_cons ..

@[simp] theorem openFds_append (fds : List Int) (cs cs' : List Call) :
    openFds fds (cs ++ cs') = (openFds fds cs).bind fun s => openFds s cs' :=
  List.foldlM_append ..

/-- The calls that open or close a file or a descriptor. -/
def Call.isHandle : Call → Bool
  | .fopen _ | .fclose _ | .openMem _ | .close _ | .socket _ => true
  | _ => false

/-- The calls that open or close a descriptor. -/
def Call.isFd : Call → Bool
  | .openMem _ | .close _ | .socket _ => true
  | _ => false

theorem Call.fdStep_of_not_isFd {c : Call} (h : c.isFd = false) (fds : List Int) :
    c.fdStep fds = some fds := by
  cases c <;> first | rfl | cases h

/-- Only the descriptor calls of a trace move the ledger. -/
theorem openFds_filter (fds : List Int) (cs : List Call) :
    openFds fds (cs.filter Call.isFd) = openFds fds cs := by
  induction cs generalizing fds with
  | nil => rfl
  | cons c cs ih =>
    cases h : c.isFd
    · simp [List.filter_cons, h, Call.fdStep_of_not_isFd h, ih]
    · simp [List.filter_cons, h, ih]

/-- Calls none of which opens or closes a descriptor keep the ledger. -/
theorem openFds_of_forall {cs : List Call} (h : ∀ c ∈ cs, c.isFd = false) (fds : List Int) :
    openFds fds cs = some fds := by
  rw [← openFds_filter, List.filter_eq_nil_iff.mpr fun c hc => by simp [h c hc]]
  rfl

/-- Closing the descriptors `ds` one after the other empties the ledger `fds` exactly when `fds`
holds them, each as often. -/
theorem openFds_close_iff (ds fds : List Int) :
    openFds fds (ds.map .close) = some [] ↔ fds.Perm ds := by
  induction ds generalizing fds with
  | nil => simp [List.perm_nil]
  | cons d ds ih =>
    by_cases hd : d ∈ fds
    · simp only [List.map_cons, openFds_cons, Call.fdStep, if_pos hd, Option.some_bind, ih]
      exact ⟨fun h => (List.perm_cons_erase hd).trans (h.cons d),
        fun h => by simpa using h.erase d⟩
    · simp only [List.map_cons, openFds_cons, Call.fdStep, if_neg hd, Option.none_bind]
      exact ⟨nofun, fun h => absurd (h.symm.subset (List.mem_cons_self d ds)) hd⟩

/-! ## What `device_free` closes -/

/-- The descriptors `device_free` closes, in its order: `mem_fd` when it is not `0`, then the
socket of every slot whose `sck` is not `0`. -/
def freedFds (fp : Fpga) (ctx : Device) : List Int :=
  (if ctx.memFd ≠ 0 then [ctx.memFd] else []) ++
    ((List.range fp.nbRfm).filter fun i => (ctx.task i).sck != 0).map fun i => (ctx.task i).sck

theorem freedFds_congr (fp : Fpga) {ctx ctx' : Device} (hm : ctx'.memFd = ctx.memFd)
    (hs : ∀ i, (ctx'.task i).sck = (ctx.task i).sck) : freedFds fp ctx' = freedFds fp ctx := by
  simp only [freedFds, hm, hs]

/-- Without the `-1` of a failed `socket`, `freedFds` is `mem_fd` when it is set and the slots'
positive sockets. -/
theorem freedFds_filter (fp : Fpga) (ctx : Device) (hm : 0 ≤ ctx.memFd)
    (hs : ∀ i < fp.nbRfm, -1 ≤ (ctx.task i).sck) :
    (freedFds fp ctx).filter (· ≠ -1) = (if ctx.memFd ≠ 0 then [ctx.memFd] else []) ++
      ((List.range fp.nbRfm).filter fun i => 0 < (ctx.task i).sck).map
        fun i => (ctx.task i).sck := by
  simp only [freedFds, List.filter_append, List.filter_map, List.filter_filter]
  congr 1
  · split_ifs <;> simp; omega
  · congr 1
    refine List.filter_congr fun i hi => ?_
    have := hs i (List.mem_range.mp hi)
    simp only [Function.comp_apply, bne_iff_ne]
    by_cases h : 0 < (ctx.task i).sck <;> simp [h] <;> omega

/-- With no socket stored, `device_free` closes `mem_fd` alone, when it is set. -/
theorem freedFds_no_sockets (fp : Fpga) {ctx : Device} (h0 : ∀ i < fp.nbRfm, (ctx.task i).sck = 0)
    (m : Int) : freedFds fp { ctx with memFd := m } = if m ≠ 0 then [m] else [] := by
  have : ((List.range fp.nbRfm).filter fun i => (ctx.task i).sck != 0) = [] :=
    List.filter_eq_nil_iff.mpr fun i hi => by simp [h0 i (List.mem_range.mp hi)]
  simp [freedFds, this]

/-- `device_free` closes `freedFds`, and makes no other descriptor call: the unmappings and the
`fclose` of the run file do not count. -/
theorem deviceFree_fds (fp : Fpga) (ctx : Device) (w : World) :
    ∃ new, (deviceFree fp ctx w).calls = w.calls ++ new ∧
      new.filter Call.isFd = (freedFds fp ctx).map .close := by
  let slots := (List.range fp.nbRfm).filter fun i => (ctx.task i).sck != 0
  have hbody : (fun i (w : World) => w.call (.close (ctx.task i).sck)) =
      fun i w => { w with calls := w.calls ++ [.close (ctx.task i).sck] } := rfl
  refine ⟨(if ctx.memFd ≠ 0 then [.munmapLw ctx.memFd, .munmapH2f ctx.memFd, .close ctx.memFd]
      else []) ++ (if ctx.daqFile ≠ 0 then [.fclose ctx.daqFile] else []) ++
      slots.map fun i => .close (ctx.task i).sck, ?_, ?_⟩
  · unfold deviceFree
    rw [hbody, forSlots_record]
    split_ifs <;> simp [World.call, slots, List.map_eq_flatMap]
  · simp only [freedFds, List.filter_append, List.map_append, slots]
    split_ifs <;> simp [Call.isFd, List.filter_map, Function.comp_def]

/-! ## What `device_initialize` opens -/

/-- `w'` is `w` after calls that open the descriptors `fds`, in order, and leave them open, and
close no other. They are handles the library hands out between `w` and `w'`, so they increase. -/
def World.OpensFds (fds : List Int) (w w' : World) : Prop :=
  (∃ new, w'.calls = w.calls ++ new ∧ ∀ l, openFds l new = some (fds.reverse ++ l)) ∧
    w.fresh ≤ w'.fresh ∧ fds.Pairwise (· < ·) ∧ ∀ fd ∈ fds, w.fresh ≤ fd ∧ fd < w'.fresh

namespace World

variable {w w' w'' : World}

theorem OpensFds.trans {fds fds' : List Int} (h : w.OpensFds fds w') (h' : w'.OpensFds fds' w'') :
    w.OpensFds (fds ++ fds') w'' := by
  obtain ⟨⟨new, hc, ho⟩, hf, hs, hb⟩ := h
  obtain ⟨⟨new', hc', ho'⟩, hf', hs', hb'⟩ := h'
  have hf1 : (w.fresh : Int) ≤ w'.fresh := by exact_mod_cast hf
  have hf2 : (w'.fresh : Int) ≤ w''.fresh := by exact_mod_cast hf'
  refine ⟨⟨new ++ new', by rw [hc', hc, List.append_assoc], fun l => by simp [ho, ho']⟩,
    hf.trans hf', List.pairwise_append.mpr ⟨hs, hs', fun a ha b hb2 => ?_⟩, fun fd hfd => ?_⟩
  · -- what `w` to `w'` opens lies below what `w'` to `w''` opens
    have := (hb a ha).2
    have := (hb' b hb2).1
    omega
  · rcases List.mem_append.mp hfd with h | h
    · have := hb fd h
      omega
    · have := hb' fd h
      omega

/-- Calls that open and close no descriptor. -/
theorem OpensFds.of_appends (h : w.Appends (fun c => !c.isFd) w') (hf : w.fresh ≤ w'.fresh) :
    w.OpensFds [] w' :=
  let ⟨new, hc, hn⟩ := h
  ⟨⟨new, hc, openFds_of_forall fun c hm => by simpa using hn c hm⟩, hf, .nil, nofun⟩

end World

/-- Calls that open or close no handle open or close no descriptor and no file. -/
theorem Call.not_isFd_of_not_isHandle {c : Call} (h : (!c.isHandle) = true) : (!c.isFd) = true := by
  cases c <;> first | rfl | cases h

theorem Call.fileStep_of_not_isHandle {c : Call} (h : (!c.isHandle) = true) (files : List Nat) :
    c.fileStep files = some files := by
  cases c <;> first | rfl | cases h

/-- `device_init_mmap` keeps `/dev/mem` open, with the descriptor in `mem_fd`, exactly when it
returns `0`; on every path it opens and closes no file. -/
theorem deviceInitMmap_opens {ctx c : Device} {w v : World} {r : Int}
    (h : deviceInitMmap ctx w = (r, c, v)) :
    c = { ctx with memFd := if r = 0 then w.fresh else 0 } ∧
      w.OpensFds (if r = 0 then [(w.fresh : Int)] else []) v ∧ w.FilesKept v := by
  have hne : ((-1 : Int) = 0) = False := by decide
  have hrel := deviceInitMmap_releases ctx w
  rw [h] at hrel
  dsimp only at hrel
  obtain ⟨hf, ⟨rfl, rfl, hcalls⟩ | ⟨rfl, rfl, hcalls, hf1⟩⟩ := hrel
  · -- a failure releases what it took
    simp only [hne, if_false, true_and]
    rcases hcalls with hcalls | hcalls | hcalls
    · exact ⟨.of_appends (.of_eq hcalls) hf, .of_eq hcalls⟩
    all_goals exact ⟨⟨⟨_, hcalls, fun l => by simp [openFds, Call.fdStep]⟩, hf, .nil, nofun⟩,
      ⟨_, hcalls, fun _ => rfl⟩⟩
  · -- a success keeps `/dev/mem` open
    simp only [if_true, true_and]
    refine ⟨⟨⟨_, hcalls, fun l => by simp [openFds, Call.fdStep]⟩, hf, List.pairwise_singleton _ _,
      fun fd hfd => ?_⟩, ⟨_, hcalls, fun _ => rfl⟩⟩
    rw [List.mem_singleton.mp hfd, hf1]
    omega

/-- What `device_init_fpga` calls: `SYNC_reset_fpga()`, then, once the PLL is locked, the slots
and the command source. It takes no handle. -/
theorem deviceInitFpga_calls (fp : Fpga) (ctx : Device) (w : World) :
    ∃ new, (deviceInitFpga fp ctx w).2.calls = w.calls ++ .resetFpga :: new ∧
      (new = [] ∨ new = fpgaStartCalls fp ctx) ∧ (deviceInitFpga fp ctx w).2.fresh = w.fresh := by
  obtain ⟨regs, hp⟩ : ∃ regs, (pllPoll 100 (w.call .resetFpga)).2 =
      { w.call .resetFpga with regs := regs } :=
    let ⟨_, _, _, _, he⟩ := pllPoll_spec (le_refl 100) (w.call .resetFpga)
    ⟨_, by rw [he]⟩
  unfold deviceInitFpga
  rcases hq : pllPoll 100 (w.call .resetFpga) with ⟨cnt, u⟩
  rw [hq] at hp
  dsimp only at hp ⊢
  subst hp
  split_ifs
  · exact ⟨[], by simp, .inl rfl, by simp⟩
  all_goals refine ⟨fpgaStartCalls fp ctx, ?_, .inr rfl,
    by simp [fpgaSlots_eq, apply_ite World.fresh]⟩
  all_goals simp_all [fpgaSlots_eq, fpgaStartCalls, activeSlots]

/-- The calls `device_init_fpga` makes once the PLL is locked take no handle. -/
theorem fpgaStartCalls_handleFree (fp : Fpga) (ctx : Device) :
    ∀ c ∈ fpgaStartCalls fp ctx, (!c.isHandle) = true := by
  simp only [fpgaStartCalls, List.mem_append, List.mem_flatMap]
  rintro c ((⟨i, -, hc⟩ | hc) | hc) <;> (try split_ifs at hc) <;>
    simp only [List.mem_cons, List.mem_singleton, List.not_mem_nil, or_false] at hc <;>
    rcases hc with rfl | rfl | rfl <;> rfl

theorem deviceInitFpga_handleFree (fp : Fpga) (ctx : Device) (w : World) :
    w.Appends (fun c => !c.isHandle) (deviceInitFpga fp ctx w).2 ∧
      (deviceInitFpga fp ctx w).2.fresh = w.fresh := by
  obtain ⟨new, hc, hn, hf⟩ := deviceInitFpga_calls fp ctx w
  refine ⟨⟨_, hc, fun c hm => ?_⟩, hf⟩
  rcases List.mem_cons.mp hm with rfl | hm
  · rfl
  rcases hn with rfl | rfl
  · cases hm
  · exact fpgaStartCalls_handleFree fp ctx c hm

/-- The tuning loop makes no handle call and takes no handle when `after` does neither. -/
theorem tuneSlots_handleFree (fp : Fpga) (ctx : Device) (delta : Word)
    {after : Nat → World → World}
    (hafter : ∀ i (w : World), w.Appends (fun c => !c.isHandle) (after i w) ∧
      (after i w).fresh = w.fresh) :
    ∀ (is : List Nat) (w : World),
      w.Appends (fun c => !c.isHandle) (tuneSlots fp ctx delta after is w).2 ∧
        (tuneSlots fp ctx delta after is w).2.fresh = w.fresh
  | [], _ => ⟨.of_eq rfl, rfl⟩
  | i :: is, w => by
    -- the library calls of an active slot
    have k1 : w.Appends (fun c => !c.isHandle)
        ((w.call (tuning fp ctx delta i)).call (.hrscSetConfig i)).result.2 :=
      ((World.Appends.call rfl).trans (.call rfl)).trans (.of_eq (World.result_calls _))
    have k2 : w.Appends (fun c => !c.isHandle)
        (((w.call (tuning fp ctx delta i)).call (.hrscSetConfig i)).result.2.call
          (.hrscResetReadRegisters i)).result.2 :=
      k1.trans ((World.Appends.call rfl).trans (.of_eq (World.result_calls _)))
    have f2 : (((w.call (tuning fp ctx delta i)).call (.hrscSetConfig i)).result.2.call
        (.hrscResetReadRegisters i)).result.2.fresh = w.fresh := by
      simp only [World.result_fresh, World.call_fresh]
    rw [tuneSlots]
    split_ifs
    · dsimp only
      split_ifs
      · exact ⟨k1, by simp only [World.result_fresh, World.call_fresh]⟩
      · exact ⟨k2, f2⟩
      · obtain ⟨ha, hf⟩ := hafter i _
        obtain ⟨hr, hr'⟩ := tuneSlots_handleFree fp ctx delta hafter is _
        exact ⟨k2.trans (ha.trans hr), hr'.trans (hf.trans f2)⟩
    · exact tuneSlots_handleFree fp ctx delta hafter is w

/-- The settings `device_init_hrsc` sends before it looks at `cfg_mode` take no handle. -/
theorem hrscCommonCalls_handleFree (ctx : Device) (w : World) :
    w.Appends (fun c => !c.isHandle) { w with calls := w.calls ++ hrscCommonCalls ctx } := by
  refine ⟨_, rfl, ?_⟩
  simp only [hrscCommonCalls, List.mem_append, List.mem_cons, List.mem_map, List.mem_singleton,
    List.not_mem_nil, or_false]
  rintro c ((rfl | rfl | rfl) | ⟨hr, -, rfl⟩) <;> rfl

theorem World.FilesKept.of_handleFree {w w' : World} (h : w.Appends (fun c => !c.isHandle) w') :
    w.FilesKept w' :=
  .of_appends h fun _ => Call.fileStep_of_not_isHandle

/-- On every path `device_init_hrsc` opens and closes no descriptor; when it returns `0` it has
closed the history file it opened. -/
theorem deviceInitHrsc_opens (fp : Fpga) (ctx : Device) (w : World) :
    w.OpensFds [] (deviceInitHrsc fp ctx w).2 ∧
      ((deviceInitHrsc fp ctx w).1 = 0 → w.FilesKept (deviceInitHrsc fp ctx w).2) := by
  have hc := hrscCommonCalls_handleFree ctx w
  have hfd : ∀ c : Call, (!c.isHandle) = true → (!c.isFd) = true :=
    fun _ => Call.not_isFd_of_not_isHandle
  simp only [deviceInitHrsc, deviceInitHrsc_common]
  split_ifs
  · obtain ⟨ht, hf⟩ := tuneSlots_handleFree fp ctx 0 (fun _ _ => ⟨.of_eq rfl, rfl⟩)
      (List.range fp.nbRfm) { w with calls := w.calls ++ hrscCommonCalls ctx }
    exact ⟨.of_appends ((hc.trans ht).mono hfd) hf.ge, fun _ => .of_handleFree (hc.trans ht)⟩
  · unfold deviceInitHrscFromCsv
    rw [foldl_call]
    have hu : w.Appends (fun c => !c.isHandle)
        { w with calls := w.calls ++ hrscCommonCalls ctx ++
                          [1, 2, 3, 4, 5, 6, 7].map (.hrscCopyConf 0) } :=
      hc.trans ⟨_, rfl, fun c hc => by obtain ⟨_, -, rfl⟩ := List.mem_map.mp hc; rfl⟩
    dsimp only
    split
    · rename_i v hg
      obtain ⟨hgf, hgc⟩ := World.grant_le hg
      exact ⟨.of_appends ((hu.trans (.of_eq hgc)).mono hfd) hgf, fun h => absurd h (by simp)⟩
    rename_i f v hg
    obtain ⟨hgf, hgc⟩ := World.grant_le hg
    have hw : ∀ i (x : World), x.Appends (fun c => !c.isHandle) (x.call (.hrscWriteConf f i)) ∧
        (x.call (.hrscWriteConf f i)).fresh = x.fresh := fun _ _ => ⟨.call rfl, rfl⟩
    obtain ⟨ht, hf⟩ := tuneSlots_handleFree fp ctx ctx.threshDelta hw (List.range fp.nbRfm)
      (v.call (.fopen f))
    have hv := (hu.trans (.of_eq hgc)).mono hfd |>.trans ((World.Appends.call rfl).trans
      (ht.mono hfd))
    have hvf := hgf.trans (le_of_eq hf.symm)
    split_ifs with hr
    · exact ⟨.of_appends hv hvf, fun h => absurd h hr⟩
    dsimp only
    refine ⟨.of_appends (hv.trans (((World.Appends.call rfl).trans (.call rfl)).trans
        (.of_eq (World.result_calls _)))) (hvf.trans_eq (by simp only [World.result_fresh,
        World.call_fresh])), fun _ => ?_⟩
    -- the history file is opened, written by the tuning loop's calls, and closed
    obtain ⟨mid, hmid, hmp⟩ := ht
    refine (World.FilesKept.of_handleFree hu).trans ((World.FilesKept.of_eq hgc).trans
      ⟨.fopen f :: mid ++ [.fclose f] ++ [.system (historyCommand ctx.runCnt)], ?_,
        fun files => ?_⟩)
    · simp [hmid]
    · rw [openFiles_append, openFiles_bracket f mid (openFiles_of_forall fun c hc =>
        Call.fileStep_of_not_isHandle (hmp c hc))]
      rfl
  · exact ⟨.of_appends (hc.mono hfd) le_rfl, fun h => absurd h (by simp)⟩

/-- One turn of `device_init_scks` opens nothing when `socket` fails, and stores its `-1` in
`sck`; otherwise it opens the socket, a handle the library had not handed out, stores it in `sck`
and keeps it open whatever `inet_pton` and `connect` return. It opens and closes no file. -/
theorem initSck_opens {i : Nat} {ctx c : Device} {w v : World} {r : Int}
    (h : initSck i ctx w = some (r, c, v)) :
    ((r = -1 ∧ c = ctx.setTask i { ctx.task i with sck := -1 } ∧ w.OpensFds [] v) ∨
      (c = ctx.setTask i { ctx.task i with sck := w.fresh } ∧ w.OpensFds [(w.fresh : Int)] v)) ∧
    w.FilesKept v := by
  unfold initSck at h
  rcases hg : w.grant with ⟨_ | f, u⟩ <;> rw [hg] at h <;> obtain ⟨hgf, hgc⟩ := World.grant_le hg
  · cases h
    exact ⟨.inl ⟨rfl, rfl, ⟨[], by simp [hgc], fun _ => rfl⟩, hgf, .nil, nofun⟩, .of_eq hgc⟩
  obtain ⟨rfl, -, -⟩ := World.grant_some hg
  dsimp only [Option.elim] at h
  rw [if_neg (by omega)] at h
  split at h
  · cases h
  rename_i a _
  -- the socket is open whatever `inet_pton` and `connect` return
  obtain ⟨rfl, ⟨rest, hv, hr⟩, hvf⟩ : c = ctx.setTask i { ctx.task i with sck := w.fresh } ∧
      (u.call (.socket w.fresh)).Appends (fun c => !c.isHandle) v ∧ v.fresh = u.fresh := by
    dsimp only [World.result] at h
    split_ifs at h <;> cases h
    · exact ⟨rfl, (World.Appends.call rfl).trans (.of_eq rfl), rfl⟩
    all_goals exact ⟨rfl, ((World.Appends.call rfl).trans (.of_eq rfl)).trans
      ((World.Appends.of_eq rfl).trans (.call rfl)), rfl⟩
  have hv' : v.calls = w.calls ++ .socket w.fresh :: rest := by simp [hv, hgc]
  refine ⟨.inr ⟨rfl, ⟨⟨_, hv', fun l => ?_⟩, hvf ▸ hgf, List.pairwise_singleton _ _,
    fun fd hfd => ?_⟩⟩, ⟨_, hv', openFiles_of_forall ?_⟩⟩
  · simp [Call.fdStep, openFds_of_forall fun y hy => by
      simpa using Call.not_isFd_of_not_isHandle (hr y hy)]
  · rw [List.mem_singleton.mp hfd, hvf, World.grant_some_fresh hg]
    omega
  · intro y hy
    rcases List.mem_cons.mp hy with rfl | hy
    · exact fun _ => rfl
    · exact Call.fileStep_of_not_isHandle (hr y hy)

theorem World.OpensFds.refl (w : World) : w.OpensFds [] w :=
  ⟨⟨[], by simp, fun _ => rfl⟩, le_rfl, .nil, nofun⟩

/-- The socket loop of `device_init_scks`, entered with no socket stored on the slots of `is`,
opens the sockets it leaves in them, in slot order, and nothing else: each `sck` is then `0`, the
`-1` of a failed `socket`, or a socket it opened, positive when the library's handles are. It
opens and closes no file, and it returns `0` only when no `socket` failed. -/
theorem initScks_opens : ∀ {is : List Nat}, is.Nodup → ∀ {ctx c : Device} {w v : World} {r : Int},
    initScks is ctx w = some (r, c, v) → 0 < w.fresh → (∀ i ∈ is, (ctx.task i).sck = 0) →
    (∀ i, i ∉ is → c.task i = ctx.task i) ∧ (∀ i ∈ is, -1 ≤ (c.task i).sck) ∧
      (r = 0 → ∀ i ∈ is, (c.task i).sck ≠ -1) ∧
      w.OpensFds ((is.filter fun i => 0 < (c.task i).sck).map fun i => (c.task i).sck) v ∧
      w.FilesKept v
  | [], _, _, _, _, _, _, h, _, _ => by
    cases h
    exact ⟨fun _ _ => rfl, nofun, fun _ => nofun, .refl _, .of_eq rfl⟩
  | i :: is, hnd, ctx, c, w, v, r, h, hw, h0 => by
    obtain ⟨hi, hnd⟩ := List.nodup_cons.mp hnd
    obtain ⟨h0i, hother⟩ := List.forall_mem_cons.mp h0
    simp only [initScks] at h
    split_ifs at h with hd
    · -- a slot with no module id is skipped
      obtain ⟨ht, hs, hr, ho, hk⟩ := initScks_opens hnd h hw hother
      have hci : (c.task i).sck = 0 := by rw [ht i hi]; exact h0i
      exact ⟨fun j hj => ht j fun hm => hj (.tail _ hm), List.forall_mem_cons.mpr ⟨by omega, hs⟩,
        fun h0 => List.forall_mem_cons.mpr ⟨by omega, hr h0⟩,
        by simpa [List.filter_cons, hci] using ho, hk⟩
    split at h
    · cases h
    rename_i r1 c1 w1 h1
    -- storing `x` in slot `i` leaves every other slot as it was
    have hset : ∀ (x : Int), ∀ j ∈ i :: is,
        ((ctx.setTask i { ctx.task i with sck := x }).task j).sck = if j = i then x else 0 := by
      intro x j hj
      by_cases hji : j = i
      · simp [hji]
      · simp [hji, hother j ((List.mem_cons.mp hj).resolve_left hji)]
    have hout : ∀ (x : Int) (j : Nat), j ∉ i :: is →
        (ctx.setTask i { ctx.task i with sck := x }).task j = ctx.task j :=
      fun x j hj => by simp [List.ne_of_not_mem_cons hj]
    obtain ⟨⟨rfl, rfl, ho1⟩ | ⟨rfl, ho1⟩, hk1⟩ := initSck_opens h1
    · -- `socket` failed: `-1` is stored and the loop stops
      rw [if_pos (by decide)] at h
      cases h
      refine ⟨hout _, fun j hj => by rw [hset _ j hj]; split_ifs <;> omega,
        fun h => absurd h (by decide), ?_, hk1⟩
      rw [List.filter_eq_nil_iff.mpr fun j hj => by rw [hset _ j hj]; split_ifs <;> decide]
      exact ho1
    -- the socket is open; the loop goes on when `inet_pton` and `connect` succeeded
    have hpos : (0 : Int) < w.fresh := by exact_mod_cast hw
    split_ifs at h with hr1
    · cases h
      refine ⟨hout _, fun j hj => by rw [hset _ j hj]; split_ifs <;> omega,
        fun h => absurd h hr1, ?_, hk1⟩
      rw [List.filter_cons_of_pos (by simpa using hpos), List.filter_eq_nil_iff.mpr fun j hj => by
        rw [hset _ j (.tail _ hj), if_neg fun (e : j = i) => hi (e ▸ hj)]; decide]
      simpa using ho1
    · obtain ⟨ht, hs, hr, ho, hk⟩ := initScks_opens hnd h (hw.trans_le ho1.2.1) fun j hj => by
        rw [hset _ j (.tail _ hj), if_neg fun (e : j = i) => hi (e ▸ hj)]
      have hci : (c.task i).sck = w.fresh := by rw [ht i hi]; simp
      refine ⟨fun j hj => ?_, List.forall_mem_cons.mpr ⟨by omega, hs⟩,
        fun h0 => List.forall_mem_cons.mpr ⟨by omega, hr h0⟩, ?_, hk1.trans hk⟩
      · rw [ht j fun hm => hj (.tail _ hm), hout _ j hj]
      · rw [List.filter_cons_of_pos (by simpa [hci] using hpos), List.map_cons, hci]
        exact ho1.trans ho

/-- The socket loop of `device_init_scks` changes no field of the context but the slot table. -/
theorem initScks_memFd {is : List Nat} {ctx ctx' : Device} {w w' : World} {r : Int}
    (h : initScks is ctx w = some (r, ctx', w')) : ctx'.memFd = ctx.memFd := by
  induction is generalizing ctx w with
  | nil => cases h; rfl
  | cons i is ih =>
    simp only [initScks] at h
    split_ifs at h
    · exact ih h
    · split at h
      · cases h
      · rename_i r1 c1 w1 h1
        obtain ⟨⟨fd, rfl⟩, -, -⟩ := initSck_spec h1
        split_ifs at h
        · cases h; rfl
        · exact (ih h).trans rfl

/-- `device_initialize`, entered with no socket stored, opens on every path the descriptors
`device_free` closes but for the `-1` of a failed `socket`, in the order it closes them, and no
other: `mem_fd` is then `0` or the bridges' descriptor, and every `sck` is `0`, `-1` or an open
socket. When it returns `0`, no `socket` failed and every file it opened is closed. -/
theorem deviceInitialize_opens (fp : Fpga) {ctx c : Device} {w v : World} {r : Int}
    (h : deviceInitialize fp ctx w = some (r, c, v)) (hw : 0 < w.fresh)
    (h0 : ∀ i < fp.nbRfm, (ctx.task i).sck = 0) :
    0 ≤ c.memFd ∧ (∀ i < fp.nbRfm, -1 ≤ (c.task i).sck) ∧
      w.OpensFds ((freedFds fp c).filter (· ≠ -1)) v ∧
      (r = 0 → w.FilesKept v ∧ ∀ i < fp.nbRfm, (c.task i).sck ≠ -1) := by
  have hs0 : ∀ i < fp.nbRfm, -1 ≤ (ctx.task i).sck := fun i hi => by rw [h0 i hi]; decide
  have hfd : ∀ c : Call, (!c.isHandle) = true → (!c.isFd) = true :=
    fun _ => Call.not_isFd_of_not_isHandle
  rcases hmm : deviceInitMmap ctx w with ⟨e1, c1, w1⟩
  obtain ⟨hc1, hm1, hf1⟩ := deviceInitMmap_opens hmm
  unfold deviceInitialize at h
  rw [hmm] at h
  dsimp only at h
  by_cases he1 : e1 = 0
  swap
  · -- `device_init_mmap` failed and left `mem_fd` at `0`
    rw [if_neg he1] at hc1 hm1
    rw [if_pos he1] at h
    subst hc1
    cases h
    refine ⟨le_rfl, hs0, ?_, fun h => absurd h (by decide)⟩
    rw [freedFds_no_sockets fp h0]
    simpa using hm1
  rw [if_pos he1] at hc1 hm1
  subst hc1 he1
  rw [if_neg (not_not.mpr rfl)] at h
  rcases hf : deviceInitFpga fp { ctx with memFd := w.fresh } w1 with ⟨e2, w2⟩
  rcases hh : deviceInitHrsc fp { ctx with memFd := w.fresh } w2 with ⟨e3, w3⟩
  have hfp := deviceInitFpga_handleFree fp { ctx with memFd := w.fresh } w1
  have hhr := deviceInitHrsc_opens fp { ctx with memFd := w.fresh } w2
  rw [hf] at hfp
  rw [hh] at hhr
  have ho2 : w.OpensFds [(w.fresh : Int)] w2 := by
    simpa using hm1.trans (.of_appends (hfp.1.mono hfd) hfp.2.ge)
  have ho3 : w.OpensFds [(w.fresh : Int)] w3 := by simpa using ho2.trans hhr.1
  have hmem : 0 ≤ ({ ctx with memFd := w.fresh } : Device).memFd := by dsimp only; omega
  rw [hf] at h
  dsimp only at h
  rw [hh] at h
  dsimp only at h
  split_ifs at h with he2 he3
  · -- `device_init_fpga` failed
    cases h
    refine ⟨hmem, hs0, ?_, fun h => absurd h (by decide)⟩
    rw [freedFds_no_sockets fp h0]
    simpa [hw.ne'] using ho2
  · -- `device_init_hrsc` failed
    cases h
    refine ⟨hmem, hs0, ?_, fun h => absurd h (by decide)⟩
    rw [freedFds_no_sockets fp h0]
    simpa [hw.ne'] using ho3
  · -- the socket loop ran
    obtain ⟨⟨e, c', v'⟩, hs, he⟩ := Option.map_eq_some'.mp h
    simp only [Prod.mk.injEq] at he
    obtain ⟨rfl, rfl, rfl⟩ := he
    have hw3 : 0 < w3.fresh := hw.trans_le ho3.2.1
    obtain ⟨-, hs1, hr1, ho1, hk1⟩ := initScks_opens (List.nodup_range _) hs hw3
      fun i hi => h0 i (List.mem_range.mp hi)
    have hm : c'.memFd = w.fresh := initScks_memFd hs
    have hs1 : ∀ i < fp.nbRfm, -1 ≤ (c'.task i).sck := fun i hi => hs1 i (List.mem_range.mpr hi)
    refine ⟨by omega, hs1, ?_, fun he => ⟨hf1.trans ((World.FilesKept.of_handleFree hfp.1).trans
      ((hhr.2 (not_not.mp he3)).trans hk1)), fun i hi => hr1 (by simpa using he) i
        (List.mem_range.mpr hi)⟩⟩
    rw [freedFds_filter fp c' (by omega) hs1, hm]
    simpa [hw.ne'] using ho3.trans ho1

/-! ## `device_free` after `device_initialize` -/

/-- `device_configure` leaves `mem_fd` and the slot table as they were, on every path. -/
theorem deviceConfigure_fds (ctx : Device) (thresh rshaper rfm : Word) (ip : String) (run : Int)
    (w : World) : (deviceConfigure ctx thresh rshaper rfm ip run w).2.1.memFd = ctx.memFd ∧
      (deviceConfigure ctx thresh rshaper rfm ip run w).2.1.task = ctx.task := by
  have hite : ∀ (c : Prop) [Decidable c] {a b : Int × Device × World},
      a.2.1.memFd = ctx.memFd ∧ a.2.1.task = ctx.task →
      b.2.1.memFd = ctx.memFd ∧ b.2.1.task = ctx.task →
      (if c then a else b).2.1.memFd = ctx.memFd ∧ (if c then a else b).2.1.task = ctx.task := by
    intro c _ a b ha hb; split <;> assumption
  unfold deviceConfigure
  dsimp only
  exact hite _ ⟨rfl, rfl⟩ (hite _ ⟨rfl, rfl⟩ (hite _ ⟨rfl, rfl⟩ (hite _ ⟨rfl, rfl⟩
    (hite _ ⟨rfl, rfl⟩ ⟨rfl, rfl⟩))))

/-- The configuration calls leave `mem_fd` and the slots' sockets as they were. -/
theorem ConfigCall.run_fds (fp : Fpga) (c : ConfigCall) (ctx : Device) (w : World) :
    (c.run fp ctx w).2.1.memFd = ctx.memFd ∧
      ∀ i, ((c.run fp ctx w).2.1.task i).sck = (ctx.task i).sck := by
  cases c with
  | bootRfm dif slot r trig =>
    simp only [ConfigCall.run, deviceBootRfm]
    split_ifs <;> refine ⟨rfl, fun i => ?_⟩ <;> by_cases hi : i = slot <;> simp [hi]
  | configureDif dif addr port =>
    simp only [ConfigCall.run, deviceConfigureDif]
    split
    · refine ⟨rfl, fun i => ?_⟩
      simp only [Device.setTask_task]
      split_ifs with h
      · rw [h]
      · rfl
    · exact ⟨rfl, fun _ => rfl⟩
  | configure thresh r rfm ip run =>
    obtain ⟨hm, ht⟩ := deviceConfigure_fds ctx thresh r rfm ip run w
    exact ⟨hm, fun i => by rw [ConfigCall.run, ht]⟩

theorem runConfig_fds (fp : Fpga) : ∀ (cs : List ConfigCall) (ctx : Device) (w : World),
    (runConfig fp cs ctx w).2.1.memFd = ctx.memFd ∧
      ∀ i, ((runConfig fp cs ctx w).2.1.task i).sck = (ctx.task i).sck
  | [], _, _ => ⟨rfl, fun _ => rfl⟩
  | c :: cs, ctx, w => by
    obtain ⟨hm, hs⟩ := runConfig_fds fp cs (c.run fp ctx w).2.1 (c.run fp ctx w).2.2
    obtain ⟨hm', hs'⟩ := ConfigCall.run_fds fp c ctx w
    exact ⟨hm.trans hm', fun i => (hs i).trans (hs' i)⟩

/-- From the ledger `device_initialize` leaves, the closes of `device_free` empty it and close
nothing that is not open exactly when no slot holds the `-1` of a failed `socket`. -/
theorem openFds_freedFds (fp : Fpga) (ctx : Device) (hm : 0 ≤ ctx.memFd) :
    openFds ((freedFds fp ctx).filter (· ≠ -1)).reverse ((freedFds fp ctx).map .close) = some [] ↔
      ∀ i < fp.nbRfm, (ctx.task i).sck ≠ -1 := by
  have hrev : ∀ l l' : List Int, l.reverse.Perm l' ↔ l.Perm l' :=
    fun _ _ => ⟨(List.reverse_perm _).symm.trans, (List.reverse_perm _).trans⟩
  rw [openFds_close_iff, hrev]
  refine ⟨fun h i hi he => ?_, fun h => ?_⟩
  · -- a perm of its own filter keeps every element
    have hall := List.filter_length_eq_length.mp h.length_eq
    exact absurd (hall _ (List.mem_append_right _ (List.mem_map_of_mem _
      (List.mem_filter.mpr ⟨List.mem_range.mpr hi, by simp [he]⟩)))) (by simp [he])
  · rw [List.filter_eq_self.mpr]
    intro x hx
    simp only [freedFds, List.mem_append, List.mem_map, List.mem_filter, List.mem_range] at hx
    rcases hx with hx | ⟨i, ⟨hi, -⟩, rfl⟩
    · split_ifs at hx
      · simp only [List.mem_singleton] at hx
        simp only [hx, ne_eq, decide_eq_true_eq]
        omega
      · cases hx
    · simpa using h i hi

/-- `device_free` after `device_initialize` on a configured context, whatever `device_initialize`
returned, closes every descriptor `device_initialize` opened and none that is not open, exactly
when no `socket` failed: a failed `socket` leaves `-1` in its slot, which `device_free` closes. -/
theorem deviceFree_after_initialize (fp : Fpga) (cs : List ConfigCall) (w0 w : World) {r : Int}
    {c : Device} {v : World} (hw : 0 < w.fresh)
    (h : deviceInitialize fp (runConfig fp cs (newDevice w0).1 (newDevice w0).2).2.1 w =
      some (r, c, v)) :
    ∃ new, (deviceFree fp c v).calls = w.calls ++ new ∧
      (openFds [] new = some [] ↔ ∀ i < fp.nbRfm, (c.task i).sck ≠ -1) := by
  have h0 := (runConfig_fds fp cs (newDevice w0).1 (newDevice w0).2).2
  obtain ⟨hm, -, ⟨⟨new1, hc1, hl1⟩, -⟩, -⟩ := deviceInitialize_opens fp h hw fun i _ => h0 i
  obtain ⟨new2, hc2, hf2⟩ := deviceFree_fds fp c v
  refine ⟨new1 ++ new2, by rw [hc2, hc1, List.append_assoc], ?_⟩
  rw [openFds_append, hl1, List.append_nil, Option.some_bind, ← openFds_filter, hf2]
  exact openFds_freedFds fp c hm

/-- Slot 0 booted as module 5 in trigger mode 1 and bound to an address. -/
def noiseSlotConfig : List ConfigCall := [.bootRfm 5 0 0 1, .configureDif 5 "10.0.0.5" 8877]

/-- Every library call succeeds, one FIFO byte per slot, and the signal lands before the fourth
poll of `g_state`. -/
def lifeWorld : World :=
  { initWorld [1, 2, 6] with signal := fun i => i == 3, fifo := fun _ => [7] }

theorem deviceFree_after_initialize_noise_slot :
    0 < lifeWorld.fresh ∧ ∃ r c v,
      deviceInitialize board (runConfig board noiseSlotConfig (newDevice lifeWorld).1
        (newDevice lifeWorld).2).2.1 lifeWorld = some (r, c, v) ∧
      ∃ new, (deviceFree board c v).calls = lifeWorld.calls ++ new ∧
        (openFds [] new = some [] ↔ ∀ i < board.nbRfm, (c.task i).sck ≠ -1) :=
  ⟨by decide, _, _, _, rfl,
    deviceFree_after_initialize board noiseSlotConfig lifeWorld lifeWorld (by decide) rfl⟩

/-! ## A device's life -/

/-- `device_start` opens and closes no descriptor, and leaves `mem_fd` and the slot table as they
were. -/
theorem deviceStart_fdFree {fp : Fpga} {fuel : Nat} {ctx c : Device} {run : Word} {w v : World}
    {r : Int} (h : deviceStart fp fuel ctx run w = some (r, c, v)) :
    w.Appends (fun c => !c.isFd) v ∧ c.memFd = ctx.memFd ∧ c.task = ctx.task := by
  have hi : w.Appends (fun c => !c.isFd) (deviceInitRun ctx run w).2.2 ∧
      (deviceInitRun ctx run w).2.1.memFd = ctx.memFd ∧
      (deviceInitRun ctx run w).2.1.task = ctx.task := by
    unfold deviceInitRun World.grant
    split_ifs
    · exact ⟨(World.Appends.call rfl).trans (.call rfl), rfl, rfl⟩
    · exact ⟨.of_eq rfl, rfl, rfl⟩
  have hfifo : ∀ (c : Device) (u : World), u.Appends (fun c => !c.isFd) (fifoInits fp c u) :=
    fun c u => ⟨_, by rw [fifoInits_eq], fun x hx => by
      obtain ⟨i, -, rfl⟩ := List.mem_map.mp hx; rfl⟩
  unfold deviceStart at h
  rcases hrun : deviceInitRun ctx run w with ⟨e, c1, u⟩
  rw [hrun] at hi h
  obtain ⟨hu, hm, ht⟩ := hi
  dsimp only at h
  split_ifs at h
  · cases h
    exact ⟨hu, hm, ht⟩
  · obtain ⟨u', hu', ⟨-, -, rfl, rfl⟩ | ⟨-, -, rfl, rfl⟩⟩ := deviceStartRunDcc_cases h
    · have hu2 : u.Appends (fun c => !c.isFd) u'.pollGState.2 :=
        .of_eq (by rw [World.pollGState_calls, (waitResetBcid_spec _ hu').1])
      exact ⟨hu.trans (hu2.trans (((World.Appends.call rfl).trans (.call rfl)).trans
        ((hfifo _ _).trans (.call rfl)))), hm, ht⟩
    · exact ⟨hu.trans (.of_eq (waitResetBcid_spec _ hu').1), hm, ht⟩
  · simp only [deviceStartRunNoise, Option.some.injEq, Prod.mk.injEq] at h
    obtain ⟨-, rfl, rfl⟩ := h
    exact ⟨hu.trans ((hfifo _ _).trans (((World.Appends.call rfl).trans (.call rfl)).trans
      ((World.Appends.call rfl).trans (.call rfl)))), hm, ht⟩
  · cases h
    exact ⟨hu, hm, ht⟩

/-- `device_stop` opens and closes no descriptor. -/
theorem deviceStop_fdFree (ctx : Device) (w : World) :
    w.Appends (fun c => !c.isFd) (deviceStop ctx w).2.2 := by
  have h0 : w.Appends (fun c => !c.isFd) (if ctx.trigMode = 0 then w.call .cntStop else w) := by
    split
    · exact .call rfl
    · exact .of_eq rfl
  have h1 : ∀ v : World, v.Appends (fun c => !c.isFd)
      (if ctx.trigMode = 1 then (v.call .stopAcq).call .cntStop else v) := fun v => by
    split
    · exact (World.Appends.call rfl).trans (.call rfl)
    · exact .of_eq rfl
  exact h0.trans ((h1 _).trans ((World.Appends.call rfl).trans ((World.Appends.call rfl).trans
    ((World.Appends.call rfl).trans (.call rfl)))))

/-- From `device_initialize` on a context that stores no socket, through a `device_start` that
returns `0`, `device_loop`, `device_stop` and `device_free`: every descriptor opened is closed
once, after it is opened, and no other descriptor is closed; every file opened is closed once,
after it is opened, and no other file is closed. -/
theorem life_releases_handles (fp : Fpga) {ctx : Device} (h0 : ∀ i < fp.nbRfm, (ctx.task i).sck = 0)
    (w : World) (fuel n : Nat) (run : Word) {c c' : Device} {v v' : World} {s : Device × World}
    (hw : 0 < w.fresh) (hi : deviceInitialize fp ctx w = some (0, c, v))
    (hs : deviceStart fp fuel c run v = some (0, c', v')) (hl : deviceLoop fp n c' v' = some s) :
    ∃ new, (deviceFree fp (deviceStop s.1 s.2).2.1 (deviceStop s.1 s.2).2.2).calls =
        w.calls ++ new ∧ openFds [] new = some [] ∧ ∀ files, openFiles files new = some files := by
  obtain ⟨hm, -, ⟨⟨new1, hc1, hl1⟩, -⟩, hr⟩ := deviceInitialize_opens fp hi hw h0
  obtain ⟨hk1, hne⟩ := hr rfl
  -- the run file: opened by `device_start`, closed by `device_stop`
  obtain ⟨mid, hv, hmid⟩ := deviceStart_opens_run_file hs
  obtain ⟨⟨lnew, hl1', hl2⟩, hf⟩ := deviceLoop_filesKept hl
  obtain ⟨w4, ⟨pre, hp1, hp2⟩, hstop, hzero⟩ := deviceStop_closes_run_file s.1 s.2
  obtain ⟨post, hq1, hq2⟩ := deviceFree_filesKept fp _ _ hzero
  have hF : v.FilesKept (deviceFree fp (deviceStop s.1 s.2).2.1 (deviceStop s.1 s.2).2.2) :=
    ⟨(.fopen c'.daqFile :: (mid ++ lnew ++ pre) ++ [.fclose c'.daqFile]) ++ post,
      by rw [hq1, hstop, World.call_calls, hp1, hl1', hv, hf]; simp, fun files => by
      rw [openFiles_append, openFiles_bracket _ _ (fun t => by simp [hmid, hl2, hp2]),
        Option.some_bind, hq2]⟩
  obtain ⟨new, hN, hNf⟩ := hk1.trans hF
  -- the descriptors: opened by `device_initialize`, closed by `device_free`
  obtain ⟨hA2, hm2, ht2⟩ := deviceStart_fdFree hs
  obtain ⟨hA3, hm3, -, hs3⟩ := deviceLoop_readoutOnly hl
  obtain ⟨M, hM, hMp⟩ := hA2.trans ((hA3.mono fun x hx => by
    cases x <;> first | rfl | cases hx).trans (deviceStop_fdFree s.1 s.2))
  obtain ⟨new5, hc5, hf5⟩ := deviceFree_fds fp (deviceStop s.1 s.2).2.1 (deviceStop s.1 s.2).2.2
  have hnew : new = new1 ++ M ++ new5 :=
    List.append_cancel_left (hN.symm.trans (by rw [hc5, hM, hc1]; simp))
  have hfreed : freedFds fp (deviceStop s.1 s.2).2.1 = freedFds fp c :=
    freedFds_congr fp (hm3.trans hm2) fun i => (hs3 i).trans (by rw [ht2])
  refine ⟨new, hN, ?_, hNf⟩
  rw [hnew, openFds_append, openFds_append, hl1, List.append_nil, Option.some_bind,
    openFds_of_forall (fun x hx => by simpa using hMp x hx), Option.some_bind, ← openFds_filter,
    hf5, hfreed]
  exact (openFds_freedFds fp c hm).mpr hne

/-- A device's whole life releases every handle it takes. When `device_initialize` on a
configured context returns `0`, `device_start` returns `0`, and `device_loop`, `device_stop` and
`device_free` follow, every descriptor opened is closed once, after it is opened, and no other
descriptor is closed; every file opened is closed once, after it is opened, and no other file is
closed. -/
theorem deviceInitialize_life_releases_handles (fp : Fpga) (cs : List ConfigCall) (w0 w : World)
    (fuel n : Nat) (run : Word) {c c' : Device} {v v' : World} {s : Device × World}
    (hw : 0 < w.fresh)
    (hi : deviceInitialize fp (runConfig fp cs (newDevice w0).1 (newDevice w0).2).2.1 w =
      some (0, c, v))
    (hs : deviceStart fp fuel c run v = some (0, c', v')) (hl : deviceLoop fp n c' v' = some s) :
    ∃ new, (deviceFree fp (deviceStop s.1 s.2).2.1 (deviceStop s.1 s.2).2.2).calls =
        w.calls ++ new ∧ openFds [] new = some [] ∧ ∀ files, openFiles files new = some files :=
  life_releases_handles fp (fun i _ => (runConfig_fds fp cs (newDevice w0).1 (newDevice w0).2).2 i)
    w fuel n run hw hi hs hl

theorem deviceInitialize_life_releases_handles_noise_slot :
    0 < lifeWorld.fresh ∧ ∃ c v, deviceInitialize board (runConfig board noiseSlotConfig
        (newDevice lifeWorld).1 (newDevice lifeWorld).2).2.1 lifeWorld = some (0, c, v) ∧
      ∃ c' v', deviceStart board 4 c 7 v = some (0, c', v') ∧
        ∃ s, deviceLoop board 4 c' v' = some s ∧
          ∃ new, (deviceFree board (deviceStop s.1 s.2).2.1 (deviceStop s.1 s.2).2.2).calls =
            lifeWorld.calls ++ new ∧ openFds [] new = some [] ∧
            ∀ files, openFiles files new = some files :=
  ⟨by decide, _, _, rfl, _, _, rfl, _, rfl,
    deviceInitialize_life_releases_handles board noiseSlotConfig lifeWorld lifeWorld 4 4 7
      (by decide) rfl rfl rfl⟩

/-- After `device_initialize` on a configured context, whatever it returned, a slot that holds an
open socket holds its own: no other slot holds it, and it is not `mem_fd`. -/
theorem deviceInitialize_own_sockets (fp : Fpga) (cs : List ConfigCall) (w0 w : World)
    {r : Int} {c : Device} {v : World} (hw : 0 < w.fresh)
    (h : deviceInitialize fp (runConfig fp cs (newDevice w0).1 (newDevice w0).2).2.1 w =
      some (r, c, v))
    {i : Nat} (hi : i < fp.nbRfm) (hs : 0 < (c.task i).sck) :
    (c.task i).sck ≠ c.memFd ∧ ∀ j < fp.nbRfm, j ≠ i → (c.task j).sck ≠ (c.task i).sck := by
  have h0 := (runConfig_fds fp cs (newDevice w0).1 (newDevice w0).2).2
  obtain ⟨hm, hs1, ⟨-, -, hinc, -⟩, -⟩ := deviceInitialize_opens fp h hw fun i _ => h0 i
  rw [freedFds_filter fp c hm hs1] at hinc
  -- the descriptors opened increase, so none is opened twice
  obtain ⟨-, hnd, hdisj⟩ := List.nodup_append.mp (hinc.imp ne_of_lt)
  have hmem : ∀ j < fp.nbRfm, 0 < (c.task j).sck →
      j ∈ (List.range fp.nbRfm).filter fun i => 0 < (c.task i).sck :=
    fun j hj hp => List.mem_filter.mpr ⟨List.mem_range.mpr hj, by simpa using hp⟩
  refine ⟨fun he => hdisj ?_ (List.mem_map_of_mem _ (hmem i hi hs)), fun j hj hji he => hji ?_⟩
  · rw [if_pos (show c.memFd ≠ 0 by omega)]
    exact List.mem_singleton.mpr he
  · exact List.inj_on_of_nodup_map hnd (hmem j hj (he ▸ hs)) (hmem i hi hs) he

/-- Two ends of readout runs that agree on the run file, on `cycle_id` and on the task of every slot
of the board but `k`. -/
def AgreeOff (fp : Fpga) (k : Nat) (s1 s2 : Device × World) : Prop :=
  runFile s1.1.daqFile s1.2.calls = runFile s2.1.daqFile s2.2.calls ∧
    s1.1.cycleId = s2.1.cycleId ∧ ∀ i < fp.nbRfm, i ≠ k → s1.1.task i = s2.1.task i

/-- A configured device, initialised and started, whatever `device_initialize` and `device_start`
returned, reads each booted slot out apart from the others. When the consumer on the socket of a
slot `k` that holds one answers otherwise, and both consumers keep answering, the readout loop ends
in both runs or in neither, with the same run file, the same `cycle_id` and the same task for every
other slot of the board. -/
theorem deviceInitialize_isolates_slots (fp : Fpga) (cs : List ConfigCall) (w0 w : World)
    (fuel n : Nat) (run : Word) {r r' : Int} {c c' : Device} {v v' : World} (hw : 0 < w.fresh)
    (hi : deviceInitialize fp (runConfig fp cs (newDevice w0).1 (newDevice w0).2).2.1 w =
      some (r, c, v))
    (hs : deviceStart fp fuel c run v = some (r', c', v')) {k : Nat} (hk : k < fp.nbRfm)
    (hpos : 0 < (c.task k).sck) (p : Peer) (hl : (v'.net (c'.task k).sck).Live) (hp : p.Live) :
    Option.Rel (AgreeOff fp k) (deviceLoop fp n c' v')
      (deviceLoop fp n c' { v' with net := Function.update v'.net (c'.task k).sck p }) := by
  obtain ⟨-, -, ht⟩ := deviceStart_fdFree hs
  have hapart := (deviceInitialize_own_sockets fp cs w0 w hw hi hk hpos).2
  have htwin := deviceLoop_twin fp n (twin_update ((c'.task k).sck) c' v' hl hp)
  generalize hx : deviceLoop fp n c' v' = x at htwin
  generalize deviceLoop fp n c' { v' with net := Function.update v'.net (c'.task k).sck p } = y
    at htwin
  cases htwin with
  | none => exact .none
  | some h =>
    -- the loop keeps every slot's socket, so every other slot is on another descriptor
    obtain ⟨-, -, -, hsck⟩ := deviceLoop_readoutOnly hx
    obtain ⟨hf, -, hcy, -, htask⟩ := h.agree
    exact .some ⟨hf, hcy, fun i hi hik => htask i (by rw [hsck i, ht]; exact hapart i hi hik)⟩

theorem deviceInitialize_isolates_slots_noise_slot :
    0 < lifeWorld.fresh ∧ ∃ r c v, deviceInitialize board (runConfig board noiseSlotConfig
        (newDevice lifeWorld).1 (newDevice lifeWorld).2).2.1 lifeWorld = some (r, c, v) ∧
      ∃ r' c' v', deviceStart board 4 c 7 v = some (r', c', v') ∧ 0 < board.nbRfm ∧
        0 < (c.task 0).sck ∧ (v'.net (c'.task 0).sck).Live ∧ (default : Peer).Live ∧
        Option.Rel (AgreeOff board 0) (deviceLoop board 4 c' v')
          (deviceLoop board 4 c' { v' with net := Function.update v'.net (c'.task 0).sck default }) :=
  -- every descriptor of `lifeWorld` has the same acknowledging consumer
  ⟨by decide, _, _, _, rfl, _, _, _, rfl, by decide, by decide, ackingNet_live 8 0,
    Peer.live_default, deviceInitialize_isolates_slots board noiseSlotConfig lifeWorld lifeWorld 4 4 7
      (by decide) rfl rfl (by decide) (by decide) default (ackingNet_live 8 0) Peer.live_default⟩

end EdaDaq
