import Mathlib.Data.BitVec
import Mathlib.Data.Stream.Init

/-!
# Words, bytes and the constants of `fpga.h`

`device.c` computes on `alt_u32` words, `uint8_t` bytes and C strings. Words and bytes are bit
vectors of the code's own widths, so every shift, mask and truncation is the one C performs. The
constants `NB_RFM`, `NB_HR` and `CMD_RESET_BCID` are defined in `fpga.h`, which is not among the
sources; every definition that uses them takes them as a parameter, so the results hold for any
board.
-/

namespace EdaDaq

/-- `alt_u32` and `uint32_t`. -/
abbrev Word := BitVec 32

/-- `uint8_t`. -/
abbrev Byte := BitVec 8

/-- The constants `device.c` takes from `fpga.h`. -/
structure Fpga where
  nbRfm : Nat
  nbHr : Nat
  cmdResetBcid : Word

/-- `((ctx->rfm_on >> rfm_index) & 1) == 1`: slot `i` is switched on in the mask. -/
def rfmActive (rfmOn : Word) (i : Nat) : Bool := (rfmOn >>> i) &&& 1 == 1

/-- The active slots of a board of `nb` slots, in ascending order. -/
def activeSlots (nb : Nat) (rfmOn : Word) : List Nat := (List.range nb).filter (rfmActive rfmOn)

theorem and_one_eq (x : Word) : x &&& 1 = if x.getLsbD 0 then 1 else 0 := by
  ext j
  by_cases hj : (j : Nat) = 0 <;> split <;> simp_all [BitVec.getLsbD_and, BitVec.getLsbD_one]

@[simp] theorem rfmActive_eq (rfmOn : Word) (i : Nat) : rfmActive rfmOn i = rfmOn.getLsbD i := by
  unfold rfmActive
  rw [and_one_eq]
  split <;> simp_all [BitVec.getLsbD_ushiftRight]

/-- A property of an `if` from the property of each branch under its condition: the step of every
proof that follows the early returns of a C function. -/
theorem ite_induction {α : Sort _} {P : α → Prop} {c : Prop} [Decidable c] {a b : α}
    (ha : c → P a) (hb : ¬c → P b) : P (if c then a else b) := by
  split
  exacts [ha ‹_›, hb ‹_›]

/-- `strcmp(buf, lit) == 0` for a literal without a NUL: `buf` holds `lit` and then a NUL. -/
def strEq (buf lit : List Byte) : Bool := buf.take (lit.length + 1) == lit ++ [0]

/-- The literal `"ACK"`. -/
def ackLit : List Byte := [65, 67, 75]

/-- The reply a conforming consumer sends: `'A', 'C', 'K', 0`. -/
def ackReply : List Byte := ackLit ++ [0]

theorem strEq_ack (buf : List Byte) : strEq buf ackLit = (buf.take 4 == ackReply) := rfl

/-- `(uint8_t)(size)`, `(uint8_t)(size >> 8)`, `(uint8_t)(size >> 16)`, `(uint8_t)(size >> 24)`. -/
def le32 (size : Word) : List Byte :=
  [size.setWidth 8, (size >>> 8).setWidth 8, (size >>> 16).setWidth 8, (size >>> 24).setWidth 8]

/-- Little-endian reading of four bytes, as a consumer decodes a length. -/
def ofLe32 : List Byte → Nat
  | [b0, b1, b2, b3] => b0.toNat + 256 * b1.toNat + 65536 * b2.toNat + 16777216 * b3.toNat
  | _ => 0

@[simp] theorem length_le32 (size : Word) : (le32 size).length = 4 := rfl

@[simp] theorem ofLe32_le32 (size : Word) : ofLe32 (le32 size) = size.toNat := by
  have := size.isLt
  simp only [le32, ofLe32, BitVec.toNat_setWidth, BitVec.toNat_ushiftRight,
    Nat.shiftRight_eq_div_pow]
  omega

/-- The header buffer `{'H', 'D', 'R', 0, size}` of `device_daq_send_dif`. -/
def difHeader (size : Word) : List Byte := [72, 68, 82, 0] ++ le32 size

@[simp] theorem length_difHeader (size : Word) : (difHeader size).length = 8 := rfl

/-- The length field a consumer reads from a header: bytes 4 to 7, little-endian. -/
def headerLength (hdr : List Byte) : Nat := ofLe32 (hdr.drop 4)

@[simp] theorem headerLength_difHeader (size : Word) :
    headerLength (difHeader size) = size.toNat := by
  simp [headerLength, difHeader]

end EdaDaq
