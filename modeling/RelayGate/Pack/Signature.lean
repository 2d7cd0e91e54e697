import RelayGate.Pack.Basic
import RelayGate.Pack.Key

/-!
Signatures of packs. What is signed is the JSON text of everything but the signature, the public key
included.
-/

namespace RelayGate.Pack

open Ed25519 (VerifyingKey)

def unsignedJson (p : Pack) : Json :=
  .record (p.contentFields ++ [("public_key", .ofBase64 p.publicKey)])

def canonicalText (p : Pack) : String := p.unsignedJson.toText

def canonical (p : Pack) : Bytes := .ofText p.canonicalText

/-- Puts in the public key first, since it is signed with the rest. -/
def sign (p : Pack) (k : SigningKey) : Pack :=
  let p := { p with publicKey := k.publicKey }
  { p with signature := k.sign p.canonical }

def isSignedBy (p : Pack) (key : VerifyingKey) : Bool := key.verify p.canonical p.signature

def isAuthentic (p : Pack) : Bool :=
  match VerifyingKey.ofBytes? p.publicKey with
  | some key => p.isSignedBy key
  | none => false

/-- Whether, moreover, the key in the pack is the one expected, byte for byte. -/
def isAuthenticFor (p : Pack) (pinned : VerifyingKey) : Bool :=
  p.publicKey.length == 32 && p.publicKey == pinned.bytes && p.isSignedBy pinned

end RelayGate.Pack
