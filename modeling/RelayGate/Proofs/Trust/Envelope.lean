import RelayGate.Proofs.Json.Record
import RelayGate.Trust.Envelope

namespace RelayGate

/-- The record holds this envelope. It may leave the key id out, but not name another one. -/
structure RawEnvelope.Holds (raw : RawEnvelope) (e : AttestEnvelope) : Prop where
  object : raw.object = Text.base64 e.object
  object_ne_nil : e.object ≠ []
  clientDataHash : raw.clientDataHash = e.clientDataHash.map Text.base64
  keyId : raw.keyId = none ∨ raw.keyId = some e.keyId

namespace AttestEnvelope

def IsWrittenIn (e : AttestEnvelope) (token : String) : Prop :=
  ∃ v raw, Json.parse token = some v ∧ RawEnvelope.ofJson? v = some raw ∧ raw.Holds e

variable {token keyId : String} {e : AttestEnvelope}

theorem readHash_eq_ok_iff {written : Option String} {hash : Option Bytes} :
    readHash written = .ok hash ↔ written = hash.map Text.base64 := by
  cases written with
  | none => cases hash <;> simp [readHash]
  | some s =>
      rw [readHash, eq_comm (a := some s), Option.map_eq_some_iff]
      split
      · next bs hs =>
          obtain rfl := Text.ofBase64?_eq_some_iff.1 hs
          simp [Text.base64_inj, eq_comm]
      · next hs =>
          constructor
          · intro h
            exact nomatch h
          · rintro ⟨bs, -, rfl⟩
            rw [Text.ofBase64?_base64] at hs
            exact nomatch hs

theorem parse_eq_bind {raw : RawEnvelope} {object : Bytes}
    (hraw : (Json.parse token).bind RawEnvelope.ofJson? = some raw)
    (hobject : Text.ofBase64? raw.object = some object) (hne : object ≠ []) :
    parse token keyId = (readHash raw.clientDataHash).bind fun hash =>
      if raw.keyId = none ∨ raw.keyId = some keyId then .ok ⟨object, hash, keyId⟩
      else .error .keyIdMismatch := by
  have hfull : ¬ object.isEmpty = true := by rwa [List.isEmpty_iff]
  simp only [parse, hraw, hobject, if_neg hfull]
  cases readHash raw.clientDataHash with
  | error e => rfl
  | ok hash =>
      cases raw.keyId with
      | none => rfl
      | some k => by_cases h : k = keyId <;> simp [h, bind, Except.bind, pure, Except.pure]

theorem exists_raw_of_parse (h : parse token keyId = .ok e) : ∃ raw object,
    (Json.parse token).bind RawEnvelope.ofJson? = some raw ∧
      Text.ofBase64? raw.object = some object ∧ object ≠ [] := by
  rw [parse] at h
  split at h
  · next raw hraw =>
      split at h
      · next object hobject =>
          by_cases hempty : object.isEmpty = true
          · rw [if_pos hempty] at h
            exact nomatch h
          · exact ⟨raw, object, hraw, hobject, mt List.isEmpty_iff.2 hempty⟩
      · exact nomatch h
  · exact nomatch h

theorem parse_eq_ok_iff : parse token keyId = .ok e ↔ e.keyId = keyId ∧ e.IsWrittenIn token := by
  constructor
  · intro h
    obtain ⟨raw, object, hraw, hobject, hne⟩ := exists_raw_of_parse h
    rw [parse_eq_bind hraw hobject hne] at h
    obtain ⟨v, hv, hread⟩ := Option.bind_eq_some_iff.1 hraw
    cases hhash : readHash raw.clientDataHash with
    | error e' =>
        rw [hhash] at h
        exact nomatch h
    | ok hash =>
        rw [hhash, Except.bind] at h
        split at h
        · next hkey =>
            obtain rfl := Except.ok.inj h
            exact ⟨rfl, v, raw, hv, hread, Text.ofBase64?_eq_some_iff.1 hobject, hne,
              readHash_eq_ok_iff.1 hhash, hkey⟩
        · exact nomatch h
  · rintro ⟨rfl, v, raw, hv, hread, hobject, hne, hhash, hkey⟩
    have hraw : (Json.parse token).bind RawEnvelope.ofJson? = some raw := by
      rw [hv, Option.bind_some, hread]
    rw [parse_eq_bind hraw (Text.ofBase64?_eq_some_iff.2 hobject) hne,
      readHash_eq_ok_iff.2 hhash, Except.bind, if_pos hkey]

end AttestEnvelope

end RelayGate
