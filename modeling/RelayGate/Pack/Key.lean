import RelayGate.Crypto.Ed25519
import RelayGate.Crypto.Sha3
import RelayGate.Text.Base64
import RelayGate.Text.Blank
import RelayGate.Text.Quoted

namespace RelayGate

open Ed25519 (VerifyingKey)

structure ConfiguredKeys where
  privateKey : Option String
  publicKey : Option String
  allowEphemeral : Bool
deriving DecidableEq

inductive SigningKey.Error where
  | missingPrivateKey
  | encoding (half : String)
  | privateKeyLength (n : Nat)
  | publicKeyLength (n : Nat)
  | inconsistentKeypair
  | publicKeyMismatch
deriving DecidableEq

def SigningKey.Error.message : SigningKey.Error → String
  | missingPrivateKey => "config signing private key is required"
  | encoding half => "config signing " ++ half ++ " key is not valid base64"
  | privateKeyLength n => "config signing private key must be 32 or 64 bytes, got " ++ toString n
  | publicKeyLength n => "config signing public key must be 32 bytes, got " ++ toString n
  | inconsistentKeypair => "config signing keypair halves are inconsistent"
  | publicKeyMismatch => "configured public key does not match the private key"

structure SigningKey where
  seed : Bytes
  ephemeral : Bool
deriving DecidableEq

namespace SigningKey

def publicKey (k : SigningKey) : Bytes := Ed25519.publicKey k.seed

def verifyingKey (k : SigningKey) : VerifyingKey := .ofSeed k.seed

def sign (k : SigningKey) (message : Bytes) : Bytes := Ed25519.sign k.seed message

def fingerprint (k : SigningKey) : String :=
  String.ofList (Text.Hex.encode ((Sha3.hash k.publicKey).take 8))

/-- The seed of a private key: the key itself, or the first half of a pair whose second half is the
public key of the first. -/
def seedOf (key : Bytes) : Except SigningKey.Error Bytes :=
  if key.length = 32 then .ok key
  else if key.length = 64 then
    if Ed25519.publicKey (key.take 32) = key.drop 32 then .ok (key.take 32)
    else .error .inconsistentKeypair
  else .error (.privateKeyLength key.length)

def decodeHalf (half text : String) : Except SigningKey.Error Bytes :=
  match Text.ofBase64? (Text.trim text) with
  | some bs => .ok bs
  | none => .error (.encoding half)

def isBlankText (s : String) : Bool := (Text.trim s).isEmpty

def checkPublic (seed : Bytes) (text : String) : Except SigningKey.Error Unit := do
  let configured ← decodeHalf "public" text
  if configured.length ≠ 32 then .error (.publicKeyLength configured.length)
  else if configured ≠ Ed25519.publicKey seed then .error .publicKeyMismatch
  else .ok ()

def ofPrivate (text : String) (publicText : Option String) : Except SigningKey.Error SigningKey := do
  let key ← decodeHalf "private" text
  let seed ← seedOf key
  match publicText.filter fun s => !isBlankText s with
  | some s => checkPublic seed s
  | none => .ok ()
  return ⟨seed, false⟩

/-- The configured key; without a private key the seed `fresh`, where that is allowed. Blank texts
count as absent. -/
def resolve (m : ConfiguredKeys) (fresh : Bytes) : Except SigningKey.Error SigningKey :=
  match m.privateKey.filter fun s => !isBlankText s with
  | some text => ofPrivate text m.publicKey
  | none => if m.allowEphemeral then .ok ⟨fresh, true⟩ else .error .missingPrivateKey

/-- What diagnostics show of a key: nothing secret. -/
def describe (k : SigningKey) : String :=
  "SigningKeys \x7b fingerprint: " ++ Text.quote k.fingerprint ++ ", ephemeral: " ++
    toString k.ephemeral ++ ", .. \x7d"

end SigningKey

def ConfiguredKeys.describe (m : ConfiguredKeys) : String :=
  let shown (s : Option String) := s.elim "None" fun s => "Some(" ++ Text.quote s ++ ")"
  "KeyMaterial \x7b private_key: " ++ shown (m.privateKey.map fun _ => "<redacted>") ++
    ", public_key: " ++ shown m.publicKey ++ ", allow_ephemeral: " ++ toString m.allowEphemeral ++
    " \x7d"

end RelayGate
