/-!
# The frame checksum

A 16-bit cyclic redundancy check: polynomial `0x1021`, register all ones at the start, bits taken
most significant first, nothing added at the end. `compute` takes a byte at a time from a table of
256 words; an entry is what eight shifts make of a byte in the upper half of the register. The
result stands least significant byte first behind the bytes that it covers.
-/

namespace SerialLink.Checksum

/-- The generator without its leading term. -/
def polynomial : UInt16 := 0x1021

/-- The register before the first byte. -/
def initial : UInt16 := 0xFFFF

/-- The register moves up one place; a one that falls out brings the generator in. -/
def shift (register : UInt16) : UInt16 :=
  if register &&& 0x8000 ≠ 0 then (register <<< 1) ^^^ polynomial else register <<< 1

/-- `n` shifts. -/
def shifts : Nat → UInt16 → UInt16
  | 0, register => register
  | n + 1, register => shifts n (shift register)

/-- The table: eight shifts of each byte in the upper half of an empty register. -/
def table : Vector UInt16 256 :=
  Vector.ofFn fun i => shifts 8 (UInt16.ofNat i.val <<< 8)

/-- The register after one more byte. -/
def step (register : UInt16) (byte : UInt8) : UInt16 :=
  let index := (register >>> 8).toUInt8 ^^^ byte
  (register <<< 8) ^^^ table.get ⟨index.toNat, index.toNat_lt⟩

/-- The checksum of some bytes. -/
def compute (bytes : List UInt8) : UInt16 :=
  bytes.foldl step initial

@[simp] theorem compute_nil : compute [] = initial := rfl

@[simp] theorem compute_snoc (bytes : List UInt8) (b : UInt8) :
    compute (bytes ++ [b]) = step (compute bytes) b := by
  simp [compute]

/-- A word as two bytes, the lower one first. -/
def wordBytes (w : UInt16) : List UInt8 :=
  [w.toUInt8, (w >>> 8).toUInt8]

/-- The word of two bytes, the lower one first. -/
def wordOf (low high : UInt8) : UInt16 :=
  low.toUInt16 ||| (high.toUInt16 <<< 8)

/-- The word that stands in `bytes` behind the first `n` of them, zero where there is none. -/
def wordAt (bytes : List UInt8) (n : Nat) : UInt16 :=
  match bytes.drop n with
  | low :: high :: _ => wordOf low high
  | _ => 0

/-- How many bytes a checksum takes. -/
def size : Nat := 2

/-- The last two bytes are the checksum of those before them. -/
def verify (bytes : List UInt8) : Bool :=
  let covered := bytes.length - size
  size ≤ bytes.length && wordAt bytes covered == compute (bytes.take covered)

end SerialLink.Checksum
