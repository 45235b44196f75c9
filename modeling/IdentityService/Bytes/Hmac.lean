import IdentityService.Bytes.Sha256

/-!
# Message Authentication

The keyed digest of a message: two nested SHA-256 digests under paddings of one key.
-/

namespace IdentityService.Hmac

open IdentityService

/-- The key as one block: a key longer than a block is replaced by its digest. -/
def blockKey (key : List UInt8) : List UInt8 :=
  let key := if 64 < key.length then Sha256.digest key else key
  key ++ List.replicate (64 - key.length) 0

/-- The keyed digest of a message. -/
def sign (key message : List UInt8) : List UInt8 :=
  let block := blockKey key
  Sha256.digest (block.map (· ^^^ 0x5c) ++ Sha256.digest (block.map (· ^^^ 0x36) ++ message))

/-- A keyed digest has thirty-two bytes. -/
theorem length_sign (key message : List UInt8) : (sign key message).length = 32 :=
  Sha256.length_digest _

end IdentityService.Hmac
