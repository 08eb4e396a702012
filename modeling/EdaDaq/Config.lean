import EdaDaq.Initialize
import EdaDaq.Readout

/-!
# Configuration

Before a run the device is configured by any sequence of three calls: `device_boot_rfm` switches
a slot on and records its module id and shaper, `device_configure_dif` binds the address of the
first slot carrying a module id, and `device_configure` sets the run settings and loads the base
configuration files. `runConfig` runs such a sequence and keeps each call's result.

Two facts are read off these sequences. The shaper check of `device_boot_rfm` treats `0` as
"unset" and `device_configure` overwrites the device's shaper without looking at the slots, so
only the slots booted with a nonzero shaper since the last `device_configure` are known to carry
the device's shaper (`runConfig_booted_shaper`). And a slot can be switched on with module id
`0`, which `device_init_scks` skips (`deviceInitialize_active_unbooted`): `device_configure_dif`
finds id `0` in every slot never booted, so binding it succeeds for a slot that is never
connected (`deviceConfigureDif_binds_unbooted`).
-/

namespace EdaDaq

/-! ## The three configuration calls -/

/-- `device_boot_rfm`. The slot is switched on and its module id and shaper stored before the
shaper is checked against the device's, so a rejected call still changes the slot; a device
shaper of `0` accepts any value. -/
def deviceBootRfm (ctx : Device) (dif : Byte) (slot : Nat) (rshaper trig : Word) : Int × Device :=
  let ctx := { ctx.setTask slot { ctx.task slot with dif := dif, rshaper := rshaper } with
               rfmOn := ctx.rfmOn ||| (1 : Word) <<< slot }
  if ctx.rshaper ≠ 0 ∧ ctx.rshaper ≠ rshaper then (-1, ctx)
  else (0, { ctx with rshaper := rshaper, trigMode := trig.toInt })

/-- `device_configure_dif`: switch to the `db` source, and bind the address and port of the
first slot whose module id is `dif`; `1` when there is none. -/
def deviceConfigureDif (fp : Fpga) (ctx : Device) (dif : Byte) (addr : String) (port : Int) :
    Int × Device :=
  let ctx := { ctx with cfgMode := "db" }
  match (List.range fp.nbRfm).find? fun i => (ctx.task i).dif == dif with
  | some i => (0, ctx.setTask i { ctx.task i with addr := some addr, port := port })
  | none => (1, ctx)

/-- The copy of the base configuration to `/dev/shm`. -/
def baseCommand : String :=
  "scp -P 1122 -r mim@193.48.81.203:/mim/soft/eda/config_base /dev/shm/"

/-- `fopen` of `conf_base.csv`, `HRSC_read_conf_singl` and `fclose`: `false` when the file does
not open or the reader fails. -/
def readConfSingl (w : World) : Bool × World :=
  match w.grant with
  | (none, w) => (false, w)
  | (some f, w) =>
    let (r, w) := ((w.call (.fopen f)).call (.hrscReadConfSingl f)).result
    (0 ≤ r, w.call (.fclose f))

/-- `fopen` of a table file, `read_th_offset`, `read_pa_gain` or `read_mask` into `table`, and
`fclose`: whether it succeeded, and the table as the reader left it. -/
def readTable (table : Nat → Word) (w : World) : Bool × (Nat → Word) × World :=
  match w.grant with
  | (none, w) => (false, table, w)
  | (some f, w) =>
    let (r, w) := (w.call (.fopen f)).result
    (0 ≤ r, w.tables.head, { w with tables := w.tables.tail }.call (.fclose f))

/-- `device_configure`. The run settings are stored first, so a call that fails on a file still
changes them. -/
def deviceConfigure (ctx : Device) (thresh rshaper rfm : Word) (ip : String) (run : Int)
    (w : World) : Int × Device × World :=
  let ctx := { ctx with threshDelta := thresh, rshaper := rshaper, rfmOn := rfm, ipAddr := some ip,
                        runCnt := run }
  let (err, w) := (w.call (.system baseCommand)).result
  if err ≠ 0 then (err, ctx, w) else
  let (ok, w) := readConfSingl w
  if !ok then (-1, ctx, w) else
  let (ok, t, w) := readTable ctx.dacFloorTable w
  let ctx := { ctx with dacFloorTable := t }
  if !ok then (-1, ctx, w) else
  let (ok, t, w) := readTable ctx.paGainTable w
  let ctx := { ctx with paGainTable := t }
  if !ok then (-1, ctx, w) else
  let (ok, t, w) := readTable ctx.maskTable w
  let ctx := { ctx with maskTable := t }
  if !ok then (-1, ctx, w) else (0, ctx, w)

/-- A call of the configuration interface, with its arguments. -/
inductive ConfigCall where
  | bootRfm (dif : Byte) (slot : Nat) (rshaper trig : Word)
  | configureDif (dif : Byte) (addr : String) (port : Int)
  | configure (thresh rshaper rfm : Word) (ip : String) (run : Int)

/-- One configuration call. -/
def ConfigCall.run (fp : Fpga) : ConfigCall → Device → World → Int × Device × World
  | .bootRfm dif slot r trig, ctx, w => ((deviceBootRfm ctx dif slot r trig).1,
      (deviceBootRfm ctx dif slot r trig).2, w)
  | .configureDif dif addr port, ctx, w => ((deviceConfigureDif fp ctx dif addr port).1,
      (deviceConfigureDif fp ctx dif addr port).2, w)
  | .configure thresh r rfm ip run, ctx, w => deviceConfigure ctx thresh r rfm ip run w

/-- A sequence of configuration calls, with the result of each. -/
def runConfig (fp : Fpga) : List ConfigCall → Device → World → List Int × Device × World
  | [], ctx, w => ([], ctx, w)
  | c :: cs, ctx, w =>
    let (e, ctx, w) := c.run fp ctx w
    let (es, ctx, w) := runConfig fp cs ctx w
    (e :: es, ctx, w)

@[simp] theorem runConfig_nil (fp : Fpga) (ctx : Device) (w : World) :
    runConfig fp [] ctx w = ([], ctx, w) := rfl

@[simp] theorem runConfig_cons (fp : Fpga) (c : ConfigCall) (cs : List ConfigCall) (ctx : Device)
    (w : World) :
    runConfig fp (c :: cs) ctx w =
      ((c.run fp ctx w).1 :: (runConfig fp cs (c.run fp ctx w).2.1 (c.run fp ctx w).2.2).1,
        (runConfig fp cs (c.run fp ctx w).2.1 (c.run fp ctx w).2.2).2) := rfl

/-! ## The shaper of the booted slots -/

/-- The slots booted with a nonzero shaper since the last `device_configure`, after call `c`. -/
def ConfigCall.boots (b : Nat → Bool) : ConfigCall → Nat → Bool
  | .bootRfm _ slot r _ => Function.update b slot (r != 0)
  | .configureDif .. => b
  | .configure .. => fun _ => false

/-- The slots booted with a nonzero shaper since the last `device_configure` of `cs`. -/
def shaperBooted (cs : List ConfigCall) : Nat → Bool := cs.foldl ConfigCall.boots fun _ => false

/-- The slots of `b` carry the device's shaper, and it is not `0`. -/
def ShaperAgrees (b : Nat → Bool) (ctx : Device) : Prop :=
  ∀ i, b i = true → (ctx.task i).rshaper = ctx.rshaper ∧ ctx.rshaper ≠ 0

theorem deviceConfigureDif_rshaper (fp : Fpga) (ctx : Device) (dif : Byte) (addr : String)
    (port : Int) : (deviceConfigureDif fp ctx dif addr port).2.rshaper = ctx.rshaper := by
  unfold deviceConfigureDif
  dsimp only
  split <;> rfl

theorem deviceConfigureDif_task_rshaper (fp : Fpga) (ctx : Device) (dif : Byte) (addr : String)
    (port : Int) (i : Nat) :
    ((deviceConfigureDif fp ctx dif addr port).2.task i).rshaper = (ctx.task i).rshaper := by
  unfold deviceConfigureDif
  dsimp only
  split
  · rename_i j _
    by_cases hij : i = j <;> simp [hij]
  · rfl

/-- A successful configuration call keeps the booted slots' shapers in agreement. -/
theorem ConfigCall.run_shaperAgrees (fp : Fpga) (c : ConfigCall) {b : Nat → Bool} {ctx : Device}
    (w : World) (h : ShaperAgrees b ctx) (hok : (c.run fp ctx w).1 = 0) :
    ShaperAgrees (c.boots b) (c.run fp ctx w).2.1 := by
  cases c with
  | bootRfm dif slot r trig =>
    simp only [ConfigCall.run, deviceBootRfm] at hok ⊢
    split_ifs at hok ⊢ with hs
    · simp at hok
    · have hr : ctx.rshaper ≠ 0 → ctx.rshaper = r := by simpa [Device.setTask] using hs
      intro i hi
      by_cases hij : i = slot
      · subst hij
        simp only [ConfigCall.boots, Function.update_same, bne_iff_ne, ne_eq] at hi
        exact ⟨by simp [Device.setTask], hi⟩
      · simp only [ConfigCall.boots, Function.update_noteq hij] at hi
        obtain ⟨ht, hz⟩ := h i hi
        rw [← hr hz]
        exact ⟨by simp [Device.setTask, Function.update_noteq hij, ht], hz⟩
  | configureDif dif addr port =>
    intro i hi
    simp only [ConfigCall.run, deviceConfigureDif_rshaper, deviceConfigureDif_task_rshaper]
    exact h i hi
  | configure => intro i hi; simp [ConfigCall.boots] at hi

theorem runConfig_shaperAgrees (fp : Fpga) (cs : List ConfigCall) {b : Nat → Bool}
    {ctx : Device} (w : World) (h : ShaperAgrees b ctx)
    (hok : ∀ e ∈ (runConfig fp cs ctx w).1, e = 0) :
    ShaperAgrees (cs.foldl ConfigCall.boots b) (runConfig fp cs ctx w).2.1 := by
  induction cs generalizing b ctx w with
  | nil => exact h
  | cons c cs ih =>
    simp only [runConfig_cons, List.mem_cons, forall_eq_or_imp] at hok
    exact ih _ (c.run_shaperAgrees fp w h hok.1) hok.2

/-- After a sequence of configuration calls that all return `0`, every slot booted with a
nonzero shaper since the last `device_configure` carries the device's shaper, the value
`device_init_hrsc` programs, and that value is not `0`. -/
theorem runConfig_booted_shaper (fp : Fpga) (cs : List ConfigCall) (ctx : Device) (w : World)
    (hok : ∀ e ∈ (runConfig fp cs ctx w).1, e = 0) (i : Nat) (hi : shaperBooted cs i = true) :
    ((runConfig fp cs ctx w).2.1.task i).rshaper = (runConfig fp cs ctx w).2.1.rshaper ∧
      (runConfig fp cs ctx w).2.1.rshaper ≠ 0 :=
  runConfig_shaperAgrees fp cs w (fun _ h => absurd h (by simp)) hok i hi

theorem runConfig_booted_shaper_two_slots :
    let cs := [ConfigCall.bootRfm 1 0 5 0, .bootRfm 2 1 5 0]
    (∀ e ∈ (runConfig board cs Device.blank (readyWorld 0)).1, e = 0) ∧
      shaperBooted cs 1 = true ∧
      ((runConfig board cs Device.blank (readyWorld 0)).2.1.task 1).rshaper =
        (runConfig board cs Device.blank (readyWorld 0)).2.1.rshaper ∧
      (runConfig board cs Device.blank (readyWorld 0)).2.1.rshaper ≠ 0 :=
  ⟨by decide, by decide,
    runConfig_booted_shaper board _ Device.blank (readyWorld 0) (by decide) 1 (by decide)⟩

/-- Slot 0 booted with shaper `0`, then slot 1 with shaper `5`: both calls succeed, and the two
active slots carry different shapers. -/
theorem runConfig_shaper_zero_slot :
    ¬ ∀ (fp : Fpga) (cs : List ConfigCall) (w : World),
      (∀ e ∈ (runConfig fp cs (newDevice w).1 (newDevice w).2).1, e = 0) →
        ∀ i < fp.nbRfm, rfmActive (runConfig fp cs (newDevice w).1 (newDevice w).2).2.1.rfmOn i →
          ((runConfig fp cs (newDevice w).1 (newDevice w).2).2.1.task i).rshaper =
            (runConfig fp cs (newDevice w).1 (newDevice w).2).2.1.rshaper := fun h =>
  absurd (h board [.bootRfm 1 0 0 0, .bootRfm 2 1 5 0] (readyWorld 0) (by decide) 0 (by decide)
    (by decide)) (by decide)

/-! ## Booted slots and active slots -/

/-- A board whose PLL locks at once, with every library call succeeding except the calls
numbered in `ones`, which return `1` (a mapping or `inet_pton` succeeds with a nonzero
result). -/
def initWorld (ones : List Nat) : World :=
  ⟨true, fun _ => false, fun _ _ => 1, fun _ => [], fun i => if i ∈ ones then 1 else 0,
    fun _ _ => 0, 3, [], fun _ => 0, ackingNet 8, []⟩

/-- Slot 0 booted as module 5 and bound to an address. -/
def boundSlot : Device :=
  (runConfig board [.bootRfm 5 0 0 0, .configureDif 5 "10.0.0.5" 8877] Device.blank
    (initWorld [])).2.1

theorem deviceInitialize_connects_bound_slot :
    ∃ c v, deviceInitialize board boundSlot (initWorld [1, 2, 6]) = some (0, c, v) ∧
      Connected c v 0 :=
  ⟨_, _, rfl,
    (deviceInitialize_connects board boundSlot (initWorld [1, 2, 6]) rfl).1 0 (by decide)
      (by decide)⟩

/-- Slot 0 switched on with module id `0`: `device_initialize` succeeds without connecting it,
and the readout loops buffer and send it all the same. -/
theorem deviceInitialize_active_unbooted :
    ¬ ∀ (fp : Fpga) (cs : List ConfigCall) (w : World) (ctx' : Device) (w' : World),
      deviceInitialize fp (runConfig fp cs (newDevice w).1 (newDevice w).2).2.1
          (runConfig fp cs (newDevice w).1 (newDevice w).2).2.2 = some (0, ctx', w') →
        ∀ i < fp.nbRfm, rfmActive ctx'.rfmOn i → (ctx'.task i).dif ≠ 0 := fun h =>
  absurd (h board [.bootRfm 0 0 0 0] (initWorld [1, 2]) _ _ rfl 0 (by decide) (by decide))
    (by decide)

/-! ## The slot `device_configure_dif` binds -/

/-- `device_configure_dif` switches to the `db` source whatever it finds. It returns `0` exactly
when some slot of the board carries the module id `dif` (for `dif = 0`, any slot never booted),
and then binds the first such slot, and no other, to the address and port; every other field is
left as it was. -/
theorem deviceConfigureDif_eq (fp : Fpga) (ctx : Device) (dif : Byte) (addr : String)
    (port : Int) :
    deviceConfigureDif fp ctx dif addr port =
      (if ∃ i < fp.nbRfm, (ctx.task i).dif = dif then 0 else 1,
        { ctx with cfgMode := "db",
                   task := fun j =>
                     if j < fp.nbRfm ∧ (ctx.task j).dif = dif ∧ ∀ i < j, (ctx.task i).dif ≠ dif
                     then { ctx.task j with addr := some addr, port := port } else ctx.task j }) := by
  unfold deviceConfigureDif
  dsimp only
  rcases hf : (List.range fp.nbRfm).find? (fun i => (ctx.task i).dif == dif) with _ | i <;>
    dsimp only
  · -- no slot carries the id
    have hnone := List.find?_range_eq_none.mp hf
    simp only [beq_iff_eq, Bool.not_eq_true', beq_eq_false_iff_ne] at hnone
    rw [if_neg fun ⟨i, hi, hd⟩ => hnone i hi hd]
    congr 2
    funext j
    rw [if_neg fun ⟨hj, hd, _⟩ => hnone j hj hd]
  · -- slot `i` is the first with the id
    obtain ⟨hd, hr, hmin⟩ := List.find?_range_eq_some.mp hf
    simp only [beq_iff_eq, Bool.not_eq_true', beq_eq_false_iff_ne] at hd hmin
    have hfirst : ∀ j,
        (j < fp.nbRfm ∧ (ctx.task j).dif = dif ∧ ∀ k < j, (ctx.task k).dif ≠ dif) ↔ j = i := by
      intro j
      constructor
      · rintro ⟨-, hj, hk⟩
        rcases lt_trichotomy j i with h | h | h
        · exact absurd hj (hmin j h)
        · exact h
        · exact absurd hd (hk i h)
      · rintro rfl; exact ⟨List.mem_range.mp hr, hd, hmin⟩
    rw [if_pos ⟨i, List.mem_range.mp hr, hd⟩]
    simp only [Device.setTask, hfirst]
    congr 2
    funext j
    by_cases hj : j = i <;> simp [hj, Function.update_apply]

/-- `device_configure_dif` with module id `0`, on the context and world of `new_device`. -/
def zeroBound : List Int × Device × World :=
  runConfig board [.configureDif 0 "10.0.0.5" 8877] (newDevice (initWorld [1, 2])).1
    (newDevice (initWorld [1, 2])).2

/-- Module id `0` on a fresh context: `device_configure_dif` reports success and binds slot 0,
which was never booted. `device_initialize` skips the slot, whose id is still `0`, and succeeds:
slot 0 keeps the address, and its socket is still descriptor `0`, never created nor connected. -/
theorem deviceConfigureDif_binds_unbooted :
    zeroBound.1 = [0] ∧ (zeroBound.2.1.task 0).dif = 0 ∧
      (deviceInitialize board zeroBound.2.1 zeroBound.2.2).map (fun x => (x.1,
        (x.2.1.task 0).addr, (x.2.1.task 0).sck, x.2.2.calls.any fun c => c matches .socket _)) =
        some (0, some "10.0.0.5", 0, false) := by decide

/-! ## What a rejected configuration call leaves -/

/-- Slot 0 booted as module 1 with shaper 5. -/
def shaperFive : Device :=
  (runConfig board [.bootRfm 1 0 5 0] Device.blank (initWorld [])).2.1

/-- Three rejected calls on contexts reachable from `new_device`, each of which changes the
configuration. `device_boot_rfm` refuses slot 1's shaper after switching the slot on and recording
its module id; `device_configure_dif` with an unknown module id has already switched to the `db`
source; `device_configure` whose copy of the base settings fails keeps the shaper it stored. -/
theorem rejected_configuration_changes_context :
    (deviceBootRfm shaperFive 2 1 7 0).1 = -1 ∧
      shaperFive.rfmOn = 1 ∧ (deviceBootRfm shaperFive 2 1 7 0).2.rfmOn = 3 ∧
      (shaperFive.task 1).dif = 0 ∧ ((deviceBootRfm shaperFive 2 1 7 0).2.task 1).dif = 2 ∧
    (deviceConfigureDif board Device.blank 9 "10.0.0.9" 8877).1 = 1 ∧
      Device.blank.cfgMode = "csv" ∧
      (deviceConfigureDif board Device.blank 9 "10.0.0.9" 8877).2.cfgMode = "db" ∧
    (deviceConfigure Device.blank 1 2 3 "10.0.0.1" 4 (initWorld [0])).1 = 1 ∧
      Device.blank.rshaper = 0 ∧
      (deviceConfigure Device.blank 1 2 3 "10.0.0.1" 4 (initWorld [0])).2.1.rshaper = 2 := by
  decide

end EdaDaq
