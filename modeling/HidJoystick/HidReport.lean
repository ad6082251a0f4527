import Mathlib.Data.Nat.Init
import Mathlib.Tactic.Ring

/-!
# HID report descriptors

What a HID host makes of a report descriptor: a list of short items, each a prefix
byte (size, type, tag) and little-endian data. Global items describe the fields that
follow, local items give them their usages, and an Input item lays them out in the
report, one after the other.

* `items` — the items of a descriptor.
* `layout` — the fields of the input report they declare.
* `Field.read` — the value of a field in a report.

Descriptors with long items, report IDs or a stack of global items are rejected.
-/

namespace HidReport

/-! ## Items -/

/-- A short item. -/
structure Item where
  /-- `bType`: 0 main, 1 global, 2 local -/
  type : ℕ
  /-- `bTag` -/
  tag : ℕ
  /-- the data bytes, lowest first -/
  data : List (BitVec 8)
  deriving DecidableEq, Repr

/-- The number of data bytes a prefix announces: the size 3 stands for 4. -/
def dataSize (itemPrefix : BitVec 8) : ℕ :=
  let size := (itemPrefix &&& 3).toNat
  if size = 3 then 4 else size

/-- The items from here on. Every item takes at least its prefix, so the length of the
descriptor is enough fuel. -/
def itemsFrom : ℕ → List (BitVec 8) → Option (List Item)
  | _, [] => some []
  | 0, _ :: _ => none
  | fuel + 1, itemPrefix :: rest =>
    if itemPrefix = 0xFE then none -- a long item
    else if rest.length < dataSize itemPrefix then none
    else do
      let items ← itemsFrom fuel (rest.drop (dataSize itemPrefix))
      return ⟨((itemPrefix >>> 2) &&& 3).toNat, (itemPrefix >>> 4).toNat,
        rest.take (dataSize itemPrefix)⟩ :: items

/-- The items of a descriptor. -/
def items (desc : List (BitVec 8)) : Option (List Item) := itemsFrom desc.length desc

/-! ## Values -/

/-- Little-endian bytes as a number. -/
def leNat : List (BitVec 8) → ℕ
  | [] => 0
  | b :: bs => b.toNat + 256 * leNat bs

/-- A number of `bits` bits, read as two's complement. -/
def signed (bits n : ℕ) : ℤ := if 2 ^ (bits - 1) ≤ n ∧ 0 < bits then (n : ℤ) - 2 ^ bits else n

/-- The value of an item whose data are signed. -/
def Item.signedValue (item : Item) : ℤ := signed (8 * item.data.length) (leNat item.data)

/-- A byte of a little-endian number. -/
theorem leNat_byte (bs : List (BitVec 8)) (i : ℕ) :
    leNat bs / 2 ^ (8 * i) % 2 ^ 8 = (bs.getD i 0).toNat := by
  induction bs generalizing i with
  | nil => simp [leNat]
  | cons b bs ih =>
    have hb : b.toNat < 256 := b.isLt
    cases i with
    | zero =>
      simp only [leNat, List.getD_cons_zero]
      omega
    | succ i =>
      have hpow : 2 ^ (8 * (i + 1)) = 256 * 2 ^ (8 * i) := by ring
      rw [leNat, hpow, ← Nat.div_div_eq_div_mul, List.getD_cons_succ, ← ih i]
      congr 2
      omega

/-! ## Fields -/

/-- A field of a report. -/
structure Field where
  usagePage : ℕ
  usage : ℕ
  logicalMin : ℤ
  logicalMax : ℤ
  /-- where the field starts in the report, in bits -/
  bitOffset : ℕ
  /-- how many bits it has -/
  bitSize : ℕ
  deriving DecidableEq, Repr

/-- The value of a field in a report. It is signed if its minimum is negative. -/
def Field.read (f : Field) (report : List (BitVec 8)) : ℤ :=
  let n := leNat report / 2 ^ f.bitOffset % 2 ^ f.bitSize
  if f.logicalMin < 0 then signed f.bitSize n else n

/-- The value is one the descriptor allows. -/
def Field.InRange (f : Field) (report : List (BitVec 8)) : Prop :=
  f.logicalMin ≤ f.read report ∧ f.read report ≤ f.logicalMax

/-- Reading an unsigned field that is a byte of the report. -/
theorem Field.read_byte {f : Field} {i : ℕ} (hmin : 0 ≤ f.logicalMin)
    (hoffset : f.bitOffset = 8 * i) (hsize : f.bitSize = 8) (report : List (BitVec 8)) :
    f.read report = (report.getD i 0).toNat := by
  rw [read, if_neg (not_lt.mpr hmin), hoffset, hsize, leNat_byte]

/-! ## Layout -/

/-- What the items so far have set. -/
structure State where
  usagePage : ℕ := 0
  logicalMin : ℤ := 0
  logicalMax : ℤ := 0
  reportSize : ℕ := 0
  reportCount : ℕ := 0
  usages : List ℕ := []
  /-- the end of the input report so far, in bits -/
  bits : ℕ := 0
  fields : List Field := []

/-- The fields an Input item adds: as many as the report count says. A field without a
usage of its own takes the last one. -/
def State.newFields (s : State) : List Field :=
  (List.range s.reportCount).map fun i =>
    { usagePage := s.usagePage
      usage := s.usages.getD i (s.usages.getLastD 0)
      logicalMin := s.logicalMin
      logicalMax := s.logicalMax
      bitOffset := s.bits + i * s.reportSize
      bitSize := s.reportSize }

/-- The effect of one item. Constant input fields are padding. -/
def State.next (s : State) (item : Item) : Option State :=
  match item.type, item.tag with
  | 0, 8 => -- Input
    some { s with
      usages := []
      bits := s.bits + s.reportCount * s.reportSize
      fields := s.fields ++ if leNat item.data % 2 = 1 then [] else s.newFields }
  | 0, _ => some { s with usages := [] } -- Output, Feature, Collection, End Collection
  | 1, 0 => some { s with usagePage := leNat item.data }
  | 1, 1 => some { s with logicalMin := item.signedValue }
  | 1, 2 => some { s with logicalMax := item.signedValue }
  | 1, 7 => some { s with reportSize := leNat item.data }
  | 1, 9 => some { s with reportCount := leNat item.data }
  | 1, _ => none
  | 2, 0 => some { s with usages := s.usages ++ [leNat item.data] }
  | _, _ => some s

/-- The fields of the input report a descriptor declares. -/
def layout (desc : List (BitVec 8)) : Option (List Field) := do
  let s ← (← items desc).foldlM State.next {}
  return s.fields

end HidReport
