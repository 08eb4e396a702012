import EdaDaq.World

/-!
# The device context

`Device_t` and its slot table `task`, as `new_device` allocates them: `calloc` zeroes every field,
a `NULL` string is `none`, the `NULL` run file is handle `0` and a descriptor never opened is `0`.
A slot's window `beg`, `end` is a pair of offsets into the DAQ cycle buffer. Two fields are left
out: `daq_filename` only names the file `fopen` opens, and `bcid48_offset` is used only by
`device_daq_write_dif`, whose body is not among the sources.
-/

namespace EdaDaq

/-- One entry of `ctx->task`. -/
structure Task where
  dif : Byte
  rshaper : Word
  addr : Option String
  port : Int
  sck : Int
  beg : Nat
  «end» : Nat
  rc : Int

namespace Task

/-- A slot as `calloc` leaves it. -/
def blank : Task := ⟨0, 0, none, 0, 0, 0, 0, 0⟩

/-- `uint32_t size = ctx->task[slot].end - ctx->task[slot].beg`. -/
def size (t : Task) : Word := BitVec.ofInt 32 ((t.«end» : Int) - t.beg)

/-- The bytes of the buffer memory in the window `[beg, end)`. -/
def window (t : Task) (mem : Nat → Byte) : List Byte :=
  (List.range (t.«end» - t.beg)).map fun j => mem (t.beg + j)

/-- The `size` bytes from `beg` that `send(sck, data, size, 0)` reads. -/
def payload (t : Task) (mem : Nat → Byte) : List Byte :=
  (List.range t.size.toNat).map fun j => mem (t.beg + j)

/-- A window the code can stream: `beg ≤ end`, shorter than `2 ^ 32` bytes. -/
def Streamable (t : Task) : Prop := t.beg ≤ t.«end» ∧ t.«end» - t.beg < 2 ^ 32

instance (t : Task) : Decidable t.Streamable := inferInstanceAs (Decidable (_ ∧ _))

theorem toNat_size {t : Task} (h : t.Streamable) : t.size.toNat = t.«end» - t.beg := by
  have : ((t.«end» : Int) - t.beg) = ((t.«end» - t.beg : Nat) : Int) := by have := h.1; omega
  rw [size, this, BitVec.ofInt_natCast, BitVec.toNat_ofNat, Nat.mod_eq_of_lt h.2]

/-- For a streamable window, `send` is handed exactly the window. -/
theorem payload_eq_window {t : Task} (h : t.Streamable) (mem : Nat → Byte) :
    t.payload mem = t.window mem := by
  rw [payload, window, toNat_size h]

end Task

/-- `Device_t`. -/
structure Device where
  threshDelta : Word
  rshaper : Word
  rfmOn : Word
  ipAddr : Option String
  runCnt : Int
  trigMode : Int
  cfgMode : String
  dacFloorTable : Nat → Word
  paGainTable : Nat → Word
  maskTable : Nat → Word
  memFd : Int
  daqFile : Nat
  cycleId : Word
  task : Nat → Task

namespace Device

/-- Replace slot `i` of the task table. -/
def setTask (ctx : Device) (i : Nat) (t : Task) : Device :=
  { ctx with task := Function.update ctx.task i t }

@[simp] theorem setTask_task (ctx : Device) (i j : Nat) (t : Task) :
    (ctx.setTask i t).task j = if j = i then t else ctx.task j := Function.update_apply ..

@[simp] theorem setTask_rfmOn (ctx : Device) (i : Nat) (t : Task) :
    (ctx.setTask i t).rfmOn = ctx.rfmOn := rfl

@[simp] theorem setTask_rshaper (ctx : Device) (i : Nat) (t : Task) :
    (ctx.setTask i t).rshaper = ctx.rshaper := rfl

@[simp] theorem setTask_cycleId (ctx : Device) (i : Nat) (t : Task) :
    (ctx.setTask i t).cycleId = ctx.cycleId := rfl

@[simp] theorem setTask_daqFile (ctx : Device) (i : Nat) (t : Task) :
    (ctx.setTask i t).daqFile = ctx.daqFile := rfl

end Device

/-- The context `calloc` returns, with `cfg_mode` set to `"csv"`. -/
def Device.blank : Device :=
  ⟨0, 0, 0, none, 0, 0, "csv", fun _ => 0, fun _ => 0, fun _ => 0, 0, 0, 0, fun _ => Task.blank⟩

/-- `new_device`: a zeroed context in `csv` mode; `g_state` is set back to `1`. -/
def newDevice (w : World) : Device × World := (Device.blank, { w with gState := true })

end EdaDaq
