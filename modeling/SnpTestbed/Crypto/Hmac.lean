import SnpTestbed.Crypto.Sha384

/-!
# HMAC with SHA-384

The keyed hash of RFC 2104 for keys of up to one block, which is what the
deterministic nonces need.
-/
namespace SnpTestbed.Hmac

/-- A key filled up with zeros to a block, every byte combined with `mask`. -/
def maskedKey (key : Bytes) (mask : UInt8) : Bytes :=
  (key ++ List.replicate (Sha384.blockSize - key.length) 0).map (· ^^^ mask)

/-- The authentication code of a message under a key of at most one block. -/
def code (key message : Bytes) : Block Sha384.digestSize :=
  let inner := Sha384.hash (maskedKey key 0x36 ++ message)
  Sha384.hash (maskedKey key 0x5c ++ inner.val)

end SnpTestbed.Hmac
