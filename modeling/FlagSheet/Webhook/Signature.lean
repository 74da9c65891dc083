import FlagSheet.Webhook.Sha256

namespace FlagSheet.Signature

def blockSize : Nat := 64

/-- The secret as a block of its own; a longer one is hashed first. -/
def keyBlock (key : Bytes) : Bytes :=
  let key := if blockSize < key.length then Sha256.hash key else key
  key ++ List.replicate (blockSize - key.length) 0

def keyedHash (key message : Bytes) : Bytes :=
  let inner := Sha256.hash ((keyBlock key).map (· ^^^ 0x36) ++ message)
  Sha256.hash ((keyBlock key).map (· ^^^ 0x5c) ++ inner)

def hexDigit (n : Nat) : Char := "0123456789abcdef".toList.getD n '0'

def hex (bytes : Bytes) : List Char :=
  bytes.flatMap fun b => [hexDigit (b.toNat / 16), hexDigit (b.toNat % 16)]

def scheme : String := "sha256="

def compute (secret : String) (body : Bytes) : String :=
  scheme ++ String.ofList (hex (keyedHash (Bytes.ofText secret) body))

/-- Whether a signature is the right one, down to the case of its letters. -/
def accepts (secret : String) (body : Bytes) (signature : String) : Bool :=
  signature = compute secret body

end FlagSheet.Signature
