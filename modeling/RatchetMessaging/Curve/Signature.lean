import RatchetMessaging.Curve.Edwards
import RatchetMessaging.Hash.Sha512

/-!
Contract: Ed25519 signatures.

Owns: the key pair made from a seed, signing, the reasons to refuse a stored key pair,
and strict verification.

Does not own: what is signed.
-/

namespace RatchetMessaging.Curve.Signature

open Curve.Edwards

/-- The secret scalar made from the first half of the seed's digest. -/
def secretScalar (half : Bytes) : Nat :=
  let value := Bytes.toNatLE half % Nat.pow 2 254
  value - value % 8 + Nat.pow 2 254

/-- The public key of a seed. -/
def publicKey (seed : FixedBytes 32) : FixedBytes 32 :=
  encode (multiply (secretScalar ((Hash.sha512 seed.toBytes).toBytes.take 32)) basePoint)

/-- A key pair is its seed followed by its public key. -/
def keyPair (seed : FixedBytes 32) : FixedBytes 64 := seed.append (publicKey seed)

/-- Why a stored key pair is refused. -/
inductive KeyPairDefect where
  /-- The public half is no point. -/
  | noPoint
  /-- The public half belongs to another seed. -/
  | mismatch
deriving DecidableEq, Repr

/-- A digest as a scalar. -/
def scalarOf (parts : Bytes) : Nat := Bytes.toNatLE (Hash.sha512 parts).toBytes % order

/-- Sign with a key pair, after checking that its halves fit. -/
def sign (pair : FixedBytes 64) (message : Bytes) : Except KeyPairDefect (FixedBytes 64) :=
  let seed : FixedBytes 32 := @FixedBytes.left 32 32 pair
  let stored : FixedBytes 32 := @FixedBytes.right 32 32 pair
  if (decode stored).isNone then .error .noPoint
  else if publicKey seed ≠ stored then .error .mismatch
  else
    let expanded := (Hash.sha512 seed.toBytes).toBytes
    let nonce := scalarOf (expanded.drop 32 ++ message)
    let commitment := encode (multiply nonce basePoint)
    let challenge := scalarOf (commitment.toBytes ++ stored.toBytes ++ message)
    let response := (nonce + challenge * secretScalar (expanded.take 32)) % order
    .ok (commitment.append (FixedBytes.ofNatLE 32 response))

/-- Strict verification: the response is reduced, public key and commitment are points
of large order, and the commitment is, byte for byte, the encoding of the response times
the generator less the challenge times the public key. -/
def verify (key : FixedBytes 32) (message : Bytes) (signature : FixedBytes 64) : Bool :=
  let commitment : FixedBytes 32 := @FixedBytes.left 32 32 signature
  let response := Bytes.toNatLE (signature.toBytes.drop 32)
  match decode key, decode commitment with
  | some keyPoint, some commitmentPoint =>
    let challenge := scalarOf (commitment.toBytes ++ key.toBytes ++ message)
    decide (response < order) && !hasSmallOrder commitmentPoint && !hasSmallOrder keyPoint &&
      decide (encode (plus (multiply response basePoint)
        (multiply challenge (opposite keyPoint))) = commitment)
  | _, _ => false

end RatchetMessaging.Curve.Signature
