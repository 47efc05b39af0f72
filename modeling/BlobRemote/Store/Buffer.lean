import BlobRemote.Text.Utf8

/-!
# Buffers

A blob that is written piece by piece is collected in a buffer with a position. Writing replaces what
stands at the position and goes on beyond the end; a gap between the end and the position is filled
with zero bytes.
-/

namespace BlobRemote

/-- Bytes and the position of the next write. -/
structure Buffer where
  /-- The bytes. -/
  data : Bytes
  /-- Where the next write begins. -/
  position : Nat
  deriving DecidableEq

namespace Buffer

/-- What is wrong with the use of a buffer. -/
inductive Fault where
  /-- The buffer is closed. -/
  | closed
  /-- A position is negative. -/
  | position (n : Int)
  /-- A size is negative. -/
  | size (n : Int)
  deriving DecidableEq

/-- What is wrong, in words. -/
def Fault.message : Fault → String
  | .closed => "I/O operation on closed file."
  | .position n => s!"negative seek value {n}"
  | .size n => s!"negative size value {n}"

/-- Nothing is written yet. -/
def empty : Buffer := ⟨[], 0⟩

/-- The buffer after a write. A write of no bytes fills no gap. -/
def write (b : Buffer) (piece : Bytes) : Buffer :=
  if piece = [] then b
  else
    let gap := List.replicate (b.position - b.data.length) 0
    let stop := b.position + piece.length
    ⟨(b.data ++ gap).take b.position ++ piece ++ b.data.drop stop, stop⟩

/-- **Writing at the end** appends. -/
theorem data_write_at_end {b : Buffer} (h : b.position = b.data.length) (piece : Bytes) :
    (b.write piece).data = b.data ++ piece := by
  by_cases hp : piece = []
  · simp [write, hp]
  · simp [write, hp, h]

/-- Writing at the end leaves the position at the end. -/
theorem position_write_at_end {b : Buffer} (h : b.position = b.data.length) (piece : Bytes) :
    (b.write piece).position = (b.write piece).data.length := by
  rw [data_write_at_end h]
  by_cases hp : piece = []
  · simp [write, hp, h]
  · simp [write, hp, h]

/-- The buffer with the next write at another position. -/
def seek (b : Buffer) (n : Int) : Except Fault Buffer :=
  if n < 0 then .error (.position n) else .ok { b with position := n.toNat }

/-- The buffer with no more bytes than a size, which is the position unless it is given. A buffer
never grows by this. -/
def truncate (b : Buffer) (size : Option Int) : Except Fault (Buffer × Nat) :=
  let n := size.getD b.position
  if n < 0 then .error (.size n) else .ok ({ b with data := b.data.take n.toNat }, n.toNat)

end Buffer

end BlobRemote
