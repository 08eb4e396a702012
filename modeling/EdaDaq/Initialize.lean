import Mathlib.Data.Stream.Init
import EdaDaq.Device

/-!
# Initialisation

`device_initialize` maps the FPGA bridges (`device_init_mmap`), resets the FPGA and switches the
active modules on (`device_init_fpga`), loads the slow control of the HARDROC chips
(`device_init_hrsc`), and connects one socket per booted slot (`device_init_scks`). Each step
stops the sequence at its first failure with `-1`.

`device_init_scks` hands the slot's address to `inet_pton` without checking it: for a booted slot
whose address was never bound that is `inet_pton(AF_INET, NULL, ...)`, which does not return.
The model gives `none` there.
-/

namespace EdaDaq

/-! ## `device_init_mmap` -/

/-- `device_init_mmap`: `open("/dev/mem")`, then the two bridge mappings; a failed mapping
unmaps what was mapped and closes the descriptor. `mem_fd` is overwritten in every case. -/
def deviceInitMmap (ctx : Device) (w : World) : Int × Device × World :=
  match w.grant with
  | (none, w) => (-1, { ctx with memFd := 0 }, w)
  | (some f, w) =>
    let fd : Int := f
    let (lw, w) := ((w.call (.openMem fd)).call (.mmapLw fd)).result
    if lw = 0 then (-1, { ctx with memFd := 0 }, w.call (.close fd)) else
    let (h2f, w) := (w.call (.mmapH2f fd)).result
    if h2f = 0 then (-1, { ctx with memFd := 0 }, (w.call (.munmapLw fd)).call (.close fd))
    else (0, { ctx with memFd := fd }, w)

/-! ## `device_init_fpga` -/

/-- `while ((!SYNC_pll_lck()) && (cnt_poll < 100)) cnt_poll++;` entered with
`cnt_poll = 100 - k`: the final `cnt_poll`. The register is read before the count is tested, so
a lock seen at the 101st read still ends with `cnt_poll = 100`. -/
def pllPoll : Nat → World → Nat × World
  | k, w =>
    let (v, w) := w.read .pllLck
    if v ≠ 0 then (100 - k, w) else
    match k with
    | 0 => (100, w)
    | k + 1 => pllPoll k w

/-- `for (i = 0; i < NB_RFM; i++) if (p(i)) body(i);` over the slots `is`. -/
def forSlots (p : Nat → Bool) (body : Nat → World → World) : List Nat → World → World
  | [], w => w
  | i :: is, w => forSlots p body is (if p i then body i w else w)

/-- A slot loop whose body only records calls records them for the slots that pass the test, in
order. -/
theorem forSlots_record (p : Nat → Bool) (f : Nat → List Call) (is : List Nat) (w : World) :
    forSlots p (fun i w => { w with calls := w.calls ++ f i }) is w =
      { w with calls := w.calls ++ (is.filter p).flatMap f } := by
  induction is generalizing w with
  | nil => simp [forSlots]
  | cons i is ih => by_cases hp : p i <;> simp [forSlots, hp, ih, List.filter_cons]

/-- A run of calls, one per element, records them in order. -/
theorem foldl_call {α : Type} (g : α → Call) (l : List α) (w : World) :
    l.foldl (fun w x => w.call (g x)) w = { w with calls := w.calls ++ l.map g } := by
  induction l generalizing w with
  | nil => simp
  | cons x l ih => rw [List.foldl_cons, ih]; simp [World.call]

/-- `device_init_fpga`. The second `SYNC_pll_lck()` is the one the log line reads. -/
def deviceInitFpga (fp : Fpga) (ctx : Device) (w : World) : Int × World :=
  let (cnt, w) := pllPoll 100 (w.call .resetFpga)
  if 100 ≤ cnt then (-1, w) else
  let w := forSlots (rfmActive ctx.rfmOn) (fun i w => (w.call (.rfmOn i)).call (.rfmEnable i))
    (List.range fp.nbRfm) (w.read .pllLck).2
  let w := if ctx.trigMode = 0 then
    ((w.call .selectCommandDcc).call .enableDccBusy).call .enableDccRamfull else w
  (0, if ctx.trigMode = 1 then w.call .selectCommandSoft else w)

/-! ## `device_init_hrsc` -/

/-- What the tuning loops of `device_init_hrsc_from_db` and `device_init_hrsc_from_csv` load for
slot `rfm`: the mask and the preamplifier gain of each chip and channel and the three DAC
thresholds of each chip raised by `delta`. The loops run over 8 chips, the tables are indexed
with `NB_HR`. -/
def tuning (fp : Fpga) (ctx : Device) (delta : Word) (rfm : Nat) : Call :=
  let chips := List.range 8
  let perChannel := fun (table : Nat → Word) =>
    chips.flatMap fun hr => (List.range 64).map fun ch => table (64 * (fp.nbHr * rfm + hr) + ch)
  .hrscTune rfm (perChannel ctx.maskTable)
    (chips.map fun hr =>
      let b := 3 * (fp.nbHr * rfm + hr)
      (ctx.dacFloorTable b + delta, ctx.dacFloorTable (b + 1) + delta,
        ctx.dacFloorTable (b + 2) + delta))
    (perChannel ctx.paGainTable)

/-- The loop over the active slots shared by both configuration sources: tune, then
`HRSC_set_config` and `HRSC_reset_read_registers`, each of which ends the loop with `-1` when
negative; `after` is what the source does for the slot afterwards. -/
def tuneSlots (fp : Fpga) (ctx : Device) (delta : Word) (after : Nat → World → World) :
    List Nat → World → Int × World
  | [], w => (0, w)
  | i :: is, w =>
    if rfmActive ctx.rfmOn i then
      let (r, w) := ((w.call (tuning fp ctx delta i)).call (.hrscSetConfig i)).result
      if r < 0 then (-1, w) else
      let (r, w) := (w.call (.hrscResetReadRegisters i)).result
      if r < 0 then (-1, w) else tuneSlots fp ctx delta after is (after i w)
    else tuneSlots fp ctx delta after is w

/-- `device_init_hrsc_from_db`: the tables as loaded. -/
def deviceInitHrscFromDb (fp : Fpga) (ctx : Device) (w : World) : Int × World :=
  tuneSlots fp ctx 0 (fun _ w => w) (List.range fp.nbRfm) w

/-- `%03d`. -/
def pad3 (n : Int) : String :=
  let s := toString n.natAbs
  if n < 0 then "-" ++ "".pushn '0' (2 - s.length) ++ s else "".pushn '0' (3 - s.length) ++ s

/-- The copy of the configuration history file `hr_sc_%03d.csv` to the history store. -/
def historyCommand (run : Int) : String :=
  "scp -P 1122 /home/root/run/hr_sc_" ++ pad3 run ++
    ".csv mim@193.48.81.203:/mim/soft/eda/config_history/"

/-- `device_init_hrsc_from_csv`: chip 0's configuration copied to the others, the thresholds
raised by `thresh_delta`, and each slot's configuration written to the history file. A failed
slot returns with the history file still open. -/
def deviceInitHrscFromCsv (fp : Fpga) (ctx : Device) (w : World) : Int × World :=
  let w := [1, 2, 3, 4, 5, 6, 7].foldl (fun w k => w.call (.hrscCopyConf 0 k)) w
  match w.grant with
  | (none, w) => (-1, w)
  | (some f, w) =>
    let (r, w) := tuneSlots fp ctx ctx.threshDelta (fun i w => w.call (.hrscWriteConf f i))
      (List.range fp.nbRfm) (w.call (.fopen f))
    if r ≠ 0 then (r, w) else
    let (err, w) := ((w.call (.fclose f)).call (.system (historyCommand ctx.runCnt))).result
    (err, w)

/-- `device_init_hrsc`: the common settings of chip 0 and the chip ids, then the source
`cfg_mode` names. -/
def deviceInitHrsc (fp : Fpga) (ctx : Device) (w : World) : Int × World :=
  let w := ((w.call (.hrscSetBit 0 854 0)).call (.hrscShaperResis 0 ctx.rshaper)).call
    (.hrscShaperCapa 0 3)
  let w := (List.range 8).foldl (fun w hr => w.call (.hrscChipId hr (hr + 1))) w
  if ctx.cfgMode = "db" then deviceInitHrscFromDb fp ctx w
  else if ctx.cfgMode = "csv" then deviceInitHrscFromCsv fp ctx w
  else (-1, w)

/-! ## `device_init_scks` -/

/-- One turn of `device_init_scks` for a booted slot: `socket`, whose result is stored in `sck`
before it is tested, `inet_pton` on the slot's address, and `connect`. -/
def initSck (i : Nat) (ctx : Device) (w : World) : Option (Int × Device × World) :=
  let t := ctx.task i
  let (h, w) := w.grant
  let fd : Int := h.elim (-1) fun f => f
  let ctx := ctx.setTask i { t with sck := fd }
  if fd < 0 then some (-1, ctx, w) else
  let w := w.call (.socket fd)
  match t.addr with
  | none => none
  | some a =>
    let (r, w) := (w.call (.inetPton a)).result
    if r ≤ 0 then some (-1, ctx, w) else
    let (r, w) := w.result
    let w := w.call (.connect fd a t.port r)
    if r < 0 then some (-1, ctx, w) else some (0, ctx, w)

/-- The loop of `device_init_scks` over the slots, skipping those with `dif == 0`. -/
def initScks : List Nat → Device → World → Option (Int × Device × World)
  | [], ctx, w => some (0, ctx, w)
  | i :: is, ctx, w =>
    if (ctx.task i).dif = 0 then initScks is ctx w else
    match initSck i ctx w with
    | none => none
    | some (r, ctx, w) => if r ≠ 0 then some (r, ctx, w) else initScks is ctx w

/-- `device_init_scks`. -/
def deviceInitScks (fp : Fpga) (ctx : Device) (w : World) : Option (Int × Device × World) :=
  initScks (List.range fp.nbRfm) ctx w

/-- `device_initialize`. -/
def deviceInitialize (fp : Fpga) (ctx : Device) (w : World) : Option (Int × Device × World) :=
  let (err, ctx, w) := deviceInitMmap ctx w
  if err ≠ 0 then some (-1, ctx, w) else
  let (err, w) := deviceInitFpga fp ctx w
  if err ≠ 0 then some (-1, ctx, w) else
  let (err, w) := deviceInitHrsc fp ctx w
  if err ≠ 0 then some (-1, ctx, w) else
  (deviceInitScks fp ctx w).map fun (err, ctx, w) => (if err ≠ 0 then -1 else 0, ctx, w)

/-! ## What a successful `device_init_scks` leaves -/

/-- Slot `i`'s address is bound, and its socket, a valid descriptor, was connected to it with
success. -/
def Connected (ctx : Device) (w : World) (i : Nat) : Prop :=
  ∃ a r, (ctx.task i).addr = some a ∧ 0 ≤ (ctx.task i).sck ∧ 0 ≤ r ∧
    Call.connect (ctx.task i).sck a (ctx.task i).port r ∈ w.calls

theorem Connected.mono {ctx ctx' : Device} {w w' : World} {i : Nat} (hc : Connected ctx w i)
    (ht : ctx'.task i = ctx.task i) (hw : ∃ new, w'.calls = w.calls ++ new) :
    Connected ctx' w' i := by
  obtain ⟨a, r, ha, hs, hr, hm⟩ := hc
  obtain ⟨new, hw⟩ := hw
  exact ⟨a, r, ht ▸ ha, ht ▸ hs, hr, by rw [ht, hw]; exact List.mem_append_left _ hm⟩

/-- A turn of `device_init_scks` sets the slot's `sck` and nothing else of the context, appends
to the trace, and connects the slot when it returns `0`. -/
theorem initSck_spec {i : Nat} {ctx ctx' : Device} {w w' : World} {r : Int}
    (h : initSck i ctx w = some (r, ctx', w')) :
    (∃ fd, ctx' = ctx.setTask i { ctx.task i with sck := fd }) ∧
      (∃ new, w'.calls = w.calls ++ new) ∧ (r = 0 → Connected ctx' w' i) := by
  rcases hg : w.grant with ⟨g, v⟩
  have hv : v.calls = w.calls := by simpa [hg] using World.grant_calls w
  simp only [initSck, hg] at h
  split_ifs at h with hfd
  · cases h
    exact ⟨⟨_, rfl⟩, ⟨[], by simp [hv]⟩, fun h => absurd h (by decide)⟩
  · split at h
    · cases h
    · rename_i a ha
      split_ifs at h with _ hr
      · cases h
        exact ⟨⟨_, rfl⟩, ⟨_, by simp [hv]; rfl⟩, fun h => absurd h (by decide)⟩
      · cases h
        exact ⟨⟨_, rfl⟩, ⟨_, by simp [hv]; rfl⟩, fun h => absurd h (by decide)⟩
      · cases h
        exact ⟨⟨_, rfl⟩, ⟨_, by simp [hv]; rfl⟩,
          fun _ => ⟨a, _, by simp [ha], by simp; omega, le_of_not_lt hr, by simp⟩⟩

/-- A run of the loop of `device_init_scks` that returns `0` connects every booted slot of the
list and leaves every other slot as it was. -/
theorem initScks_spec {is : List Nat} {ctx ctx' : Device} {w w' : World}
    (h : initScks is ctx w = some (0, ctx', w')) :
    (∀ i ∈ is, (ctx.task i).dif ≠ 0 → Connected ctx' w' i) ∧
      (∀ j, (j ∉ is ∨ (ctx.task j).dif = 0) → ctx'.task j = ctx.task j) ∧
      ∃ new, w'.calls = w.calls ++ new := by
  induction is generalizing ctx w with
  | nil =>
    cases h
    exact ⟨by simp, fun _ _ => rfl, [], by simp⟩
  | cons i is ih =>
    simp only [initScks] at h
    split_ifs at h with hd
    · obtain ⟨ha, hb, hc⟩ := ih h
      refine ⟨fun j hj hdj => ?_, fun j hj => hb j ?_, hc⟩
      · rcases List.mem_cons.mp hj with rfl | hj
        · exact absurd hd hdj
        · exact ha j hj hdj
      · rcases hj with hj | hj
        · exact .inl fun hm => hj (List.mem_cons_of_mem _ hm)
        · exact .inr hj
    · split at h
      · cases h
      · rename_i r c1 w1 h1
        split_ifs at h with hr
        · cases h; exact absurd rfl hr
        · obtain ⟨⟨fd, rfl⟩, ⟨n1, hn1⟩, hcon⟩ := initSck_spec h1
          obtain ⟨ha, hb, ⟨n2, hn2⟩⟩ := ih h
          have hdif : ∀ j,
              ((ctx.setTask i { ctx.task i with sck := fd }).task j).dif = (ctx.task j).dif := by
            intro j; by_cases hj : j = i <;> simp [hj]
          have hother : ∀ j, j ≠ i →
              (ctx.setTask i { ctx.task i with sck := fd }).task j = ctx.task j := by
            intro j hj; simp [hj]
          refine ⟨fun j hj hdj => ?_, fun j hj => ?_, n1 ++ n2,
            by rw [hn2, hn1, List.append_assoc]⟩
          · by_cases hm : j ∈ is
            · exact ha j hm (by rwa [hdif])
            · rcases List.mem_cons.mp hj with rfl | hj
              · exact (hcon (by omega)).mono (hb j (.inl hm)) ⟨n2, hn2⟩
              · exact absurd hj hm
          · have hji : j ≠ i := by
              rintro rfl
              rcases hj with hj | hj
              · exact hj (List.mem_cons_self _ _)
              · exact hd hj
            rw [hb j ?_, hother j hji]
            rcases hj with hj | hj
            · exact .inl fun hm => hj (List.mem_cons_of_mem _ hm)
            · exact .inr (by rwa [hdif])

theorem deviceInitMmap_task (ctx : Device) (w : World) :
    (deviceInitMmap ctx w).2.1.task = ctx.task := by
  unfold deviceInitMmap
  split
  · rfl
  · dsimp only; split_ifs <;> rfl

/-- When `device_initialize` returns `0`, every booted slot (`dif != 0`) has a bound address and
a socket connected to it, and every other slot is left as it was: an active slot with `dif == 0`
keeps the socket it had. -/
theorem deviceInitialize_connects (fp : Fpga) (ctx : Device) (w : World) {ctx' : Device}
    {w' : World} (h : deviceInitialize fp ctx w = some (0, ctx', w')) :
    (∀ i < fp.nbRfm, (ctx.task i).dif ≠ 0 → Connected ctx' w' i) ∧
      ∀ i, (ctx.task i).dif = 0 → ctx'.task i = ctx.task i := by
  rcases hm : deviceInitMmap ctx w with ⟨e1, c1, w1⟩
  have ht : c1.task = ctx.task := by simpa [hm] using deviceInitMmap_task ctx w
  rcases hf : deviceInitFpga fp c1 w1 with ⟨e2, w2⟩
  rcases hh : deviceInitHrsc fp c1 w2 with ⟨e3, w3⟩
  unfold deviceInitialize at h
  rw [hm] at h
  dsimp only at h
  rw [hf] at h
  dsimp only at h
  rw [hh] at h
  dsimp only at h
  -- each of the first three steps that fails returns `-1`
  iterate 3 replace h := ((ite_eq_iff.mp h).resolve_left fun ⟨_, e⟩ => by simp at e).2
  obtain ⟨⟨e, c, v⟩, hs, he⟩ := Option.map_eq_some'.mp h
  simp only [Prod.mk.injEq, ite_eq_right_iff] at he
  obtain ⟨he, rfl, rfl⟩ := he
  obtain rfl : e = 0 := by by_contra hne; exact absurd (he hne) (by decide)
  obtain ⟨ha, hb, -⟩ := initScks_spec hs
  rw [ht] at ha hb
  exact ⟨fun i hi hd => ha i (List.mem_range.mpr hi) hd, fun i hd => hb i (.inr hd)⟩

/-! ## What `device_init_hrsc` sends to the chips -/

/-- The settings of chip 0 and the chip ids, which `device_init_hrsc` sends whatever `cfg_mode`
says. -/
def hrscCommonCalls (ctx : Device) : List Call :=
  [.hrscSetBit 0 854 0, .hrscShaperResis 0 ctx.rshaper, .hrscShaperCapa 0 3] ++
    (List.range 8).map fun hr => .hrscChipId hr (hr + 1)

/-- What the tuning loop records for an active slot whose two results are accepted: its tuned
tables, `HRSC_set_config`, `HRSC_reset_read_registers`, then `post`, what the source does next. -/
def slotConfigCalls (fp : Fpga) (ctx : Device) (delta : Word) (post : Nat → List Call)
    (i : Nat) : List Call :=
  tuning fp ctx delta i :: .hrscSetConfig i :: .hrscResetReadRegisters i :: post i

theorem take_two_mul_succ {α : Type} (s : Stream' α) (n : Nat) :
    s.take (2 * (n + 1)) = s.head :: s.tail.head :: s.tail.tail.take (2 * n) := rfl

section Tune

variable (fp : Fpga) (ctx : Device) (delta : Word) {after : Nat → World → World}
  {post : Nat → List Call}

/-- The tuning loop returns `0` exactly when the two results of every active slot are accepted.
It has then consumed those results and recorded each active slot's calls, in slot order. -/
theorem tuneSlots_spec (hafter : ∀ i w, after i w = { w with calls := w.calls ++ post i }) :
    ∀ (is : List Nat) (w : World),
      ((tuneSlots fp ctx delta after is w).1 = 0 ↔
        ∀ r ∈ w.status.take (2 * (is.filter (rfmActive ctx.rfmOn)).length), 0 ≤ r) ∧
      ((tuneSlots fp ctx delta after is w).1 = 0 →
        (tuneSlots fp ctx delta after is w).2.status =
          w.status.drop (2 * (is.filter (rfmActive ctx.rfmOn)).length) ∧
        (tuneSlots fp ctx delta after is w).2.calls =
          w.calls ++ (is.filter (rfmActive ctx.rfmOn)).flatMap (slotConfigCalls fp ctx delta post))
  | [], w => by simp [tuneSlots, Stream'.take_zero]
  | i :: is, w => by
    cases hp : rfmActive ctx.rfmOn i
    · simpa only [tuneSlots, hp, List.filter_cons, Bool.false_eq_true, if_false]
        using tuneSlots_spec hafter is w
    · simp only [List.filter_cons, hp, if_true, List.length_cons, take_two_mul_succ,
        List.forall_mem_cons]
      rw [tuneSlots, if_pos hp]
      dsimp only [World.result, World.call_status]
      split_ifs with h1 h2
      · exact ⟨iff_of_false (by simp) fun h => h1.not_le h.1, by simp⟩
      · exact ⟨iff_of_false (by simp) fun h => h2.not_le h.2.1, by simp⟩
      · refine ⟨(tuneSlots_spec hafter is _).1.trans ⟨fun h => ⟨not_lt.mp h1, not_lt.mp h2,
          by rwa [hafter] at h⟩, fun h => by rw [hafter]; exact h.2.2⟩, fun h => ?_⟩
        obtain ⟨hs, hc⟩ := (tuneSlots_spec hafter is _).2 h
        rw [hs, hc, hafter]
        simp [slotConfigCalls, Nat.mul_succ, World.call]

end Tune

/-- The settings `device_init_hrsc` sends before it looks at `cfg_mode`. -/
theorem deviceInitHrsc_common (ctx : Device) (w : World) :
    (List.range 8).foldl (fun w hr => w.call (.hrscChipId hr (hr + 1)))
      (((w.call (.hrscSetBit 0 854 0)).call (.hrscShaperResis 0 ctx.rshaper)).call
        (.hrscShaperCapa 0 3)) = { w with calls := w.calls ++ hrscCommonCalls ctx } := by
  rw [foldl_call]; simp [hrscCommonCalls, World.call]

/-- A world in which every library call returns `0`. -/
def quietWorld : World :=
  ⟨true, fun _ => false, fun _ _ => 0, fun _ => [], fun _ => 0, fun _ _ => 0, 0, [], fun _ => 0,
    fun _ => ⟨fun _ => .fail, fun _ => .fail, []⟩, []⟩

/-- A board of two slots. -/
def pairBoard : Fpga := ⟨2, 8, 0⟩

/-- Both slots of `pairBoard` switched on, configured from `mode`. -/
def pairSlots (mode : String) : Device := { Device.blank with rfmOn := 3, cfgMode := mode }

/-- With `cfg_mode` `"db"`, `device_init_hrsc` returns `0` exactly when every `HRSC_set_config`
and `HRSC_reset_read_registers` of the active slots succeeds. It has then sent the common
settings and, for each active slot in ascending order, that slot's own tables as loaded,
the configuration and the reset of the read registers. -/
theorem deviceInitHrsc_db (fp : Fpga) (ctx : Device) (w : World) (hdb : ctx.cfgMode = "db") :
    ((deviceInitHrsc fp ctx w).1 = 0 ↔
      ∀ r ∈ w.status.take (2 * (activeSlots fp.nbRfm ctx.rfmOn).length), 0 ≤ r) ∧
    ((deviceInitHrsc fp ctx w).1 = 0 → (deviceInitHrsc fp ctx w).2.calls =
      w.calls ++ hrscCommonCalls ctx ++
        (activeSlots fp.nbRfm ctx.rfmOn).flatMap (slotConfigCalls fp ctx 0 fun _ => [])) := by
  have hafter : ∀ (_ : Nat) (v : World), v = { v with calls := v.calls ++ [] } :=
    fun _ _ => by simp
  simp only [deviceInitHrsc, deviceInitHrsc_common, hdb, if_true, deviceInitHrscFromDb]
  refine ⟨(tuneSlots_spec fp ctx 0 hafter _ _).1,
    fun h => ((tuneSlots_spec fp ctx 0 hafter _ _).2 h).2.trans ?_⟩
  simp [activeSlots]

theorem deviceInitHrsc_db_two_slots :
    (deviceInitHrsc pairBoard (pairSlots "db") quietWorld).1 = 0 ∧
      (deviceInitHrsc pairBoard (pairSlots "db") quietWorld).2.calls =
        hrscCommonCalls Device.blank ++
          [0, 1].flatMap (slotConfigCalls pairBoard (pairSlots "db") 0 fun _ => []) :=
  have h := deviceInitHrsc_db pairBoard (pairSlots "db") quietWorld rfl
  ⟨h.1.mpr (by decide), h.2 (h.1.mpr (by decide))⟩

/-- With `cfg_mode` `"csv"`, `device_init_hrsc` returns `0` exactly when the history file opens,
every `HRSC_set_config` and `HRSC_reset_read_registers` of the active slots succeeds, and the copy
to the history store returns `0`. It has then sent the common settings, copied chip 0's
configuration to the seven others, and for each active slot in ascending order sent its tables
with the thresholds raised by `thresh_delta`, configured it, reset its read registers and written
its configuration to the history file; then it closed that file and copied it. -/
theorem deviceInitHrsc_csv (fp : Fpga) (ctx : Device) (w : World) (hcsv : ctx.cfgMode = "csv") :
    ((deviceInitHrsc fp ctx w).1 = 0 ↔ 0 ≤ w.status.head ∧
      (∀ r ∈ w.status.tail.take (2 * (activeSlots fp.nbRfm ctx.rfmOn).length), 0 ≤ r) ∧
      w.status.get (2 * (activeSlots fp.nbRfm ctx.rfmOn).length + 1) = 0) ∧
    ((deviceInitHrsc fp ctx w).1 = 0 → (deviceInitHrsc fp ctx w).2.calls =
      w.calls ++ hrscCommonCalls ctx ++ [1, 2, 3, 4, 5, 6, 7].map (.hrscCopyConf 0) ++
        .fopen w.fresh :: (activeSlots fp.nbRfm ctx.rfmOn).flatMap
          (slotConfigCalls fp ctx ctx.threshDelta fun i => [.hrscWriteConf w.fresh i]) ++
        [.fclose w.fresh, .system (historyCommand ctx.runCnt)]) := by
  have hdb : ctx.cfgMode ≠ "db" := by rw [hcsv]; decide
  have hafter : ∀ i (v : World), v.call (.hrscWriteConf w.fresh i) =
      { v with calls := v.calls ++ [.hrscWriteConf w.fresh i] } := fun _ _ => rfl
  simp only [deviceInitHrsc, deviceInitHrsc_common]
  rw [if_neg hdb, if_pos hcsv]
  simp only [deviceInitHrscFromCsv, foldl_call]
  by_cases hg : 0 ≤ w.status.head
  · simp only [World.grant, hg, if_true]
    split
    · -- a failed slot
      rename_i hr
      exact ⟨iff_of_false hr fun h => hr ((tuneSlots_spec fp ctx _ hafter _ _).1.mpr h.2.1),
        fun h => absurd h hr⟩
    · -- every slot configured: the result is the copy's
      rename_i hr
      have h0 := not_not.mp hr
      obtain ⟨hs, hc⟩ := (tuneSlots_spec fp ctx _ hafter _ _).2 h0
      have ht := (tuneSlots_spec fp ctx _ hafter _ _).1.mp h0
      simp only [World.result, World.call_status, World.call_calls, hs, hc, Stream'.head_drop]
      exact ⟨⟨fun h => ⟨trivial, ht, h⟩, fun h => h.2.2⟩,
        fun _ => by simp [activeSlots]⟩
  · -- the history file does not open
    simp only [World.grant, World.call_status, hg, if_false]
    exact ⟨iff_of_false (by decide) fun h => h.1, fun h => absurd h (by decide)⟩

theorem deviceInitHrsc_csv_two_slots :
    (deviceInitHrsc pairBoard (pairSlots "csv") quietWorld).1 = 0 ∧
      (deviceInitHrsc pairBoard (pairSlots "csv") quietWorld).2.calls =
        hrscCommonCalls Device.blank ++ [1, 2, 3, 4, 5, 6, 7].map (.hrscCopyConf 0) ++
          .fopen 0 :: [0, 1].flatMap
            (slotConfigCalls pairBoard (pairSlots "csv") 0 fun i => [.hrscWriteConf 0 i]) ++
          [.fclose 0, .system (historyCommand 0)] :=
  have h := deviceInitHrsc_csv pairBoard (pairSlots "csv") quietWorld rfl
  ⟨h.1.mpr (by decide), h.2 (h.1.mpr (by decide))⟩

/-! ## The PLL wait of `device_init_fpga` -/

/-- The wait entered with `k ≤ 100` polls left reads the lock register `j + 1` times, where `j`
is the first reading that shows the lock, or `k` when none before it does, and ends with
`cnt_poll = 100 - k + j` if reading `j` shows the lock and `100` if it does not. -/
theorem pllPoll_spec {k : Nat} (hk : k ≤ 100) (w : World) :
    ∃ j ≤ k, (∀ i < j, (w.regs .pllLck).get i = 0) ∧ ((w.regs .pllLck).get j ≠ 0 ∨ j = k) ∧
      pllPoll k w = (if (w.regs .pllLck).get j ≠ 0 then 100 - k + j else 100,
        { w with regs := Function.update w.regs .pllLck ((w.regs .pllLck).drop (j + 1)) }) := by
  induction k generalizing w with
  | zero =>
    refine ⟨0, le_rfl, nofun, .inr rfl, ?_⟩
    rw [pllPoll]
    dsimp only [World.read]
    split_ifs <;> rfl
  | succ k ih =>
    by_cases h : (w.regs .pllLck).get 0 = 0
    · obtain ⟨j, hj, hz, hl, he⟩ := ih (by omega) (w.read .pllLck).2
      simp only [World.read, Function.update_same, Stream'.get_tail] at hz hl he
      refine ⟨j + 1, by omega, fun i hi => ?_, hl.imp_right fun h => by omega, ?_⟩
      · cases i with
        | zero => exact h
        | succ i => exact hz i (by omega)
      · rw [pllPoll]
        dsimp only [World.read]
        rw [if_neg (not_not.mpr h), he]
        simp only [Function.update_idem, Stream'.drop_tail']
        congr 1
        split_ifs <;> omega
    · refine ⟨0, by omega, nofun, .inl h, ?_⟩
      rw [pllPoll]
      dsimp only [World.read]
      rw [if_pos h, if_pos h]
      rfl

/-- The calls `device_init_fpga` makes once the PLL is locked: each active slot switched on and
enabled, then the command source of the trigger mode. -/
def fpgaStartCalls (fp : Fpga) (ctx : Device) : List Call :=
  (activeSlots fp.nbRfm ctx.rfmOn).flatMap (fun i => [.rfmOn i, .rfmEnable i]) ++
    (if ctx.trigMode = 0 then [.selectCommandDcc, .enableDccBusy, .enableDccRamfull] else []) ++
    if ctx.trigMode = 1 then [.selectCommandSoft] else []

theorem fpgaSlots_eq (rfmOn : Word) (is : List Nat) (w : World) :
    forSlots (rfmActive rfmOn) (fun i w => (w.call (.rfmOn i)).call (.rfmEnable i)) is w =
      { w with calls := w.calls ++ (is.filter (rfmActive rfmOn)).flatMap
                                     fun i => [.rfmOn i, .rfmEnable i] } := by
  have hbody : (fun i (w : World) => (w.call (.rfmOn i)).call (.rfmEnable i)) =
      fun i w => { w with calls := w.calls ++ [.rfmOn i, .rfmEnable i] } := by
    funext i w; simp [World.call]
  rw [hbody, forSlots_record]

/-- When the first 100 readings of the wait loop do not show the lock, `device_init_fpga` returns
`-1` after a 101st reading, whatever that reading shows. -/
theorem deviceInitFpga_ignores_last_reading (fp : Fpga) (ctx : Device) (w : World)
    (hz : ∀ i < 100, (w.regs .pllLck).get i = 0) :
    (deviceInitFpga fp ctx w).1 = -1 ∧
      (deviceInitFpga fp ctx w).2.regs .pllLck = (w.regs .pllLck).drop 101 := by
  obtain ⟨j, hj, -, hl, he⟩ := pllPoll_spec (le_refl 100) (w.call .resetFpga)
  simp only [World.call_regs] at hl he
  obtain rfl : j = 100 := by
    rcases hl with hl | hl
    · by_contra hne; exact hl (hz j (by omega))
    · exact hl
  unfold deviceInitFpga
  rw [he]
  dsimp only
  rw [if_pos (by split_ifs <;> omega)]
  exact ⟨rfl, by simp⟩

/-- `device_init_fpga` reads the lock register at most 101 times in its wait loop. It returns `-1`
exactly when none of the first 100 readings shows the lock, having read a 101st; otherwise the
lock is seen at a reading `j < 100`, the log line reads the register once more, the active slots
are switched on and the command source selected, and it returns `0`. -/
theorem deviceInitFpga_spec (fp : Fpga) (ctx : Device) (w : World) :
    ((deviceInitFpga fp ctx w).1 = -1 ∧ (∀ i < 100, (w.regs .pllLck).get i = 0) ∧
      (deviceInitFpga fp ctx w).2.regs .pllLck = (w.regs .pllLck).drop 101 ∧
      (deviceInitFpga fp ctx w).2.calls = w.calls ++ [.resetFpga]) ∨
    ((deviceInitFpga fp ctx w).1 = 0 ∧ ∃ j < 100, (∀ i < j, (w.regs .pllLck).get i = 0) ∧
      (w.regs .pllLck).get j ≠ 0 ∧
      (deviceInitFpga fp ctx w).2.regs .pllLck = (w.regs .pllLck).drop (j + 2) ∧
      (deviceInitFpga fp ctx w).2.calls = w.calls ++ .resetFpga :: fpgaStartCalls fp ctx) := by
  obtain ⟨j, hj, hz, hl, he⟩ := pllPoll_spec (le_refl 100) (w.call .resetFpga)
  simp only [World.call_regs] at hz hl he
  unfold deviceInitFpga
  rw [he]
  dsimp only
  by_cases hlock : (w.regs .pllLck).get j ≠ 0 ∧ j < 100
  · -- the lock is seen at reading `j` of the first 100
    rw [if_pos hlock.1, if_neg (by omega)]
    refine .inr ⟨rfl, j, hlock.2, hz, hlock.1, ?_, ?_⟩
    · simp [apply_ite World.regs, World.read, Stream'.drop_tail', fpgaSlots_eq]
    · by_cases h0 : ctx.trigMode = 0
      · simp [h0, World.read, fpgaSlots_eq, fpgaStartCalls, activeSlots]
      · by_cases h1 : ctx.trigMode = 1 <;>
          simp [h0, h1, World.read, fpgaSlots_eq, fpgaStartCalls, activeSlots]
  · -- none of the first 100 readings shows it
    have h100 : j = 100 := by
      rcases hl with hl | hl
      · by_contra hne; exact hlock ⟨hl, by omega⟩
      · exact hl
    subst h100
    rw [if_pos (by split_ifs <;> omega)]
    exact .inl ⟨rfl, hz, by simp, by simp⟩

/-- A PLL that locks at the 101st reading. -/
def lateLockWorld : World := { quietWorld with regs := fun _ i => if i < 100 then 0 else 1 }

/-- A PLL that locks only at the 101st reading of the wait loop: `device_init_fpga` has read the
lock and still returns `-1`. -/
theorem deviceInitFpga_lock_at_last_reading :
    ¬ ∀ (fp : Fpga) (ctx : Device) (w : World),
      (deviceInitFpga fp ctx w).1 = -1 ↔ ∀ i < 101, (w.regs .pllLck).get i = 0 := fun h =>
  absurd ((h pairBoard Device.blank lateLockWorld).mp
    (deviceInitFpga_ignores_last_reading pairBoard Device.blank lateLockWorld (by decide)).1 100
      (by decide)) (by decide)

end EdaDaq
