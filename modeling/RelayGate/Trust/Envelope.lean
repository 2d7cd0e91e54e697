import RelayGate.Trust.Attestation

namespace RelayGate

inductive AttestEnvelope.Error where
  | json
  | base64 (field : String)
  | emptyObject
  | keyIdMismatch
deriving DecidableEq

def AttestEnvelope.Error.message : AttestEnvelope.Error → String
  | json => "envelope is not valid json"
  | base64 field => "field " ++ field ++ " is not valid base64"
  | emptyObject => "attestation object is empty"
  | keyIdMismatch => "envelope key id does not match the supplied key id"

structure RawEnvelope where
  object : String
  clientDataHash : Option String
  keyId : Option String
deriving DecidableEq

namespace RawEnvelope

def shape : Json.Shape := ⟨["attestationObject", "clientDataHash", "keyId"], 1⟩

open Json in
def ofJson? (v : Json) : Option RawEnvelope :=
  match shape.columns v with
  | some [object, hash, keyId] => do
    return {
      object := ← required text? object
      clientDataHash := ← optional text? hash
      keyId := ← optional text? keyId }
  | _ => none

end RawEnvelope

namespace AttestEnvelope

def readHash : Option String → Except AttestEnvelope.Error (Option Bytes)
  | none => .ok none
  | some s =>
    match Text.ofBase64? s with
    | some hash => .ok (some hash)
    | none => .error (.base64 "clientDataHash")

/-- A key id in the envelope has to be the one supplied with it. -/
def parse (token keyId : String) : Except AttestEnvelope.Error AttestEnvelope := do
  let some raw := (Json.parse token).bind RawEnvelope.ofJson? | .error .json
  let some object := Text.ofBase64? raw.object | .error (.base64 "attestationObject")
  if object.isEmpty then .error .emptyObject
  let hash ← readHash raw.clientDataHash
  if raw.keyId.any (· ≠ keyId) then .error .keyIdMismatch
  return ⟨object, hash, keyId⟩

end AttestEnvelope

end RelayGate
