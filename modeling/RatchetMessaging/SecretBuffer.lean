import RatchetMessaging.Bytes
import RatchetMessaging.Text.Listing

/-!
Contract: guarded storage for secret bytes.

Owns: a buffer whose length is chosen when it is made, that refuses reads and writes
of any other length, and that refuses every use of its content once it is disposed.

Does not own: which bytes are secret.
-/

namespace RatchetMessaging

/-- A buffer of secret bytes. Its length stays visible after disposal; its content
does not. -/
structure SecretBuffer where
  length : Nat
  content : FixedBytes length
  disposed : Bool

namespace SecretBuffer

/-- The longest buffer that can be made. -/
def maxLength : Nat := 65536

/-- Check the wanted length of a new buffer. -/
def checkLength (length : Nat) : Except Error Unit := do
  if length = 0 then
    throw (.allocation "zero-length buffer")
  if maxLength < length then
    throw (.allocation s!"requested {length} bytes, limit is {maxLength}")

/-- A new buffer full of zeros. -/
def allocate (length : Nat) : Except Error SecretBuffer := do
  checkLength length
  return ⟨length, .replicate length 0, false⟩

/-- A new buffer with the given content. -/
def ofBytes (bytes : Bytes) : Except Error SecretBuffer := do
  checkLength bytes.length
  return ⟨bytes.length, ⟨bytes, rfl⟩, false⟩

/-- A buffer with the content of a key. -/
def ofFixed {size : Nat} (value : FixedBytes size) : SecretBuffer := ⟨size, value, false⟩

/-- Refuse a disposed buffer. -/
def ensureLive (buffer : SecretBuffer) : Except Error Unit :=
  if buffer.disposed then throw (.objectDisposed "SecureBuffer") else pure ()

/-- Refuse a length other than the buffer's own. -/
def ensureLength (buffer : SecretBuffer) (length : Nat) : Except Error Unit :=
  if length = buffer.length then pure ()
  else throw (.invalidInput s!"expected {buffer.length} bytes, got {length}")

/-- Replace the whole content. -/
def write (buffer : SecretBuffer) (bytes : Bytes) : Except Error SecretBuffer := do
  buffer.ensureLive
  buffer.ensureLength bytes.length
  return { buffer with content := .fit buffer.length bytes }

/-- The content, for a reader that names the right length. -/
def read (buffer : SecretBuffer) (length : Nat) : Except Error Bytes := do
  buffer.ensureLive
  buffer.ensureLength length
  return buffer.content.toBytes

/-- Apply a function to the content. -/
def withBytes {α : Type} (buffer : SecretBuffer) (use : Bytes → α) : Except Error α := do
  buffer.ensureLive
  return use buffer.content.toBytes

/-- An independent buffer with the same content. -/
def clone (buffer : SecretBuffer) : Except Error SecretBuffer := do
  buffer.ensureLive
  return buffer

/-- Whether two live buffers have the same length and content. -/
def sameContent (buffer other : SecretBuffer) : Except Error Bool := do
  buffer.ensureLive
  other.ensureLive
  return buffer.content.toBytes == other.content.toBytes

/-- Wipe the content; every later use of it fails. -/
def dispose (buffer : SecretBuffer) : SecretBuffer :=
  { buffer with content := .replicate buffer.length 0, disposed := true }

/-- The listing shows length and state, never content. -/
def listing (buffer : SecretBuffer) : String :=
  Text.listing "SecureBuffer"
    [("len", toString buffer.length), ("disposed", toString buffer.disposed)] true

end SecretBuffer

end RatchetMessaging
