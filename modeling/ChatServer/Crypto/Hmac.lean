import ChatServer.Crypto.Sha256

/-!
# Keyed hashes

HMAC with SHA-256: the hash of a message under a key. A key longer than a block
is hashed first.
-/
namespace ChatServer.Crypto

def blockSize : Nat := 64

/-- A key of the length of a block. -/
def blockKey (key : List UInt8) : List UInt8 :=
  let key := if blockSize < key.length then Sha256.digest key else key
  key ++ List.replicate (blockSize - key.length) 0

/-- The hash of a message under a key. -/
def hmac (key message : List UInt8) : List UInt8 :=
  let key := blockKey key
  Sha256.digest (key.map (· ^^^ 0x5c) ++ Sha256.digest (key.map (· ^^^ 0x36) ++ message))

end ChatServer.Crypto

