/-!
# Where rows go

The rows of a query go to standard output or to a file, through a write buffer of 8 KiB: a
write that would overflow the buffer first hands the buffered bytes to the device, and a
write as large as the buffer goes to the device directly. Flushing hands the rest over and
waits for the device.

A file is written in the background: handing bytes over succeeds at once, and a failure of
the device is reported by the next hand-over or by the flush. So on a device that takes no
byte (a full disk) the first hand-over seems to succeed, the second fails (a failed
hand-over keeps its bytes in the buffer), and a flush of anything fails.
-/

namespace JobQuery.Cli

/-- How a device takes bytes. -/
inductive Device where
  /-- It takes every byte. -/
  | healthy
  /-- It takes none: there is no space left on it. -/
  | full
  deriving Repr, BEq, DecidableEq, Inhabited

/-- The failure of a device that is full. -/
def noSpaceLeft : String := "No space left on device (os error 28)"

/-- An open output. -/
structure Sink where
  device : Device
  /-- The buffer's size in bytes. -/
  capacity : Nat := 8192
  /-- The lines in the buffer, oldest first, and their size in bytes. -/
  buffered : List String := []
  bufferedBytes : Nat := 0
  /-- Whether bytes were handed to a full device and its failure is not reported yet. -/
  failing : Bool := false
  /-- The lines the device took, oldest first. -/
  delivered : List String := []
  deriving Repr, Inhabited

namespace Sink

/-- The size of a text in bytes. -/
def byteSize (s : String) : Nat := s.utf8ByteSize

/-- Hand lines to the device: they are taken, or the failure of an earlier hand-over is
reported (and the lines stay with the caller). -/
def handOver (s : Sink) (lines : List String) : Except String Sink :=
  match s.device with
  | .healthy => .ok { s with delivered := s.delivered ++ lines }
  | .full => if s.failing then .error noSpaceLeft else .ok { s with failing := true }

/-- Hand the buffer to the device; on failure the buffer keeps its lines. -/
def flushBuffer (s : Sink) : Except String Sink :=
  if s.buffered.isEmpty then .ok s
  else
    match s.handOver s.buffered with
    | .ok s => .ok { s with buffered := [], bufferedBytes := 0 }
    | .error e => .error e

/-- Write one line. -/
def write (s : Sink) (line : String) : Except String Sink := do
  let n := byteSize line
  let s ← if s.bufferedBytes + n > s.capacity then s.flushBuffer else pure s
  if n ≥ s.capacity then s.handOver [line]
  else pure { s with buffered := s.buffered ++ [line], bufferedBytes := s.bufferedBytes + n }

/-- Hand the buffer over and wait for the device. -/
def flush (s : Sink) : Except String Sink := do
  let s ← s.flushBuffer
  if s.failing then throw noSpaceLeft else pure s

end Sink

end JobQuery.Cli
