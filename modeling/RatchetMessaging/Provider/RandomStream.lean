import RatchetMessaging.Hash.Sha256

/-!
Contract: a reproducible stream of random bytes.

Owns: a queue of bytes that is used up first and, behind it, the digests of a seed and a
running number.

Does not own: randomness fit for real keys.
-/

namespace RatchetMessaging

/-- Bytes to hand out, and what to make further bytes from. -/
structure RandomStream where
  queue : Bytes := []
  seed : Bytes := []
  counter : UInt32 := 0

namespace RandomStream

/-- The digests numbered from `counter` on. -/
def digests (seed : Bytes) : (count : Nat) → (counter : UInt32) → List Bytes
  | 0, _ => []
  | count + 1, counter =>
    (Hash.sha256 (seed ++ wordToBytes counter)).toBytes :: digests seed count (counter + 1)

/-- A stream whose queue holds at least `size` bytes. -/
def prepare (stream : RandomStream) (size : Nat) : RandomStream :=
  let count := (size - stream.queue.length + 31) / 32
  { stream with
    queue := stream.queue ++ (digests stream.seed count stream.counter).flatten
    counter := stream.counter + UInt32.ofNat count }

/-- Take the next `size` bytes. -/
def take (stream : RandomStream) (size : Nat) : FixedBytes size × RandomStream :=
  let prepared := stream.prepare size
  (.fit size (prepared.queue.take size), { prepared with queue := prepared.queue.drop size })

/-- Put bytes in front of everything that waits. -/
def push (stream : RandomStream) (bytes : Bytes) : RandomStream :=
  { stream with queue := bytes ++ stream.queue }

end RandomStream

end RatchetMessaging
