import RelayGate.Proofs.Json.Field
import RelayGate.Proofs.Trust.Envelope

namespace RelayGate

open Json (IsOptionalText)
open Text (base64)

namespace RawEnvelope

structure IsIn (raw : RawEnvelope) (v : Json) : Prop where
  record : shape.IsRecord v
  object : shape.field "attestationObject" v = some (.ofText raw.object)
  clientDataHash : IsOptionalText (shape.field "clientDataHash" v) raw.clientDataHash
  keyId : IsOptionalText (shape.field "keyId" v) raw.keyId

def StandsIn (raw : RawEnvelope) (token : String) : Prop := ∃ v, Json.parse token = some v ∧ raw.IsIn v

variable {raw : RawEnvelope} {v : Json} {token : String}

theorem nodup_names_shape : shape.names.Nodup := by decide

theorem ofJson?_eq_some_iff : ofJson? v = some raw ↔ raw.IsIn v := by
  constructor
  · intro h
    rw [ofJson?] at h
    split at h
    · next object hash keyId hcolumns =>
        obtain ⟨hrecord, hfields⟩ := (Json.columns_eq_some_iff nodup_names_shape).1 hcolumns
        obtain ⟨rfl, rfl, rfl⟩ : object = shape.field "attestationObject" v ∧
            hash = shape.field "clientDataHash" v ∧ keyId = shape.field "keyId" v := by
          simpa [shape] using hfields
        obtain ⟨o, ho, h⟩ := Option.bind_eq_some_iff.1 h
        obtain ⟨d, hd, h⟩ := Option.bind_eq_some_iff.1 h
        obtain ⟨k, hk, h⟩ := Option.bind_eq_some_iff.1 h
        obtain rfl := Option.some.inj h
        exact ⟨hrecord, Json.required_text?_eq_some_iff.1 ho, Json.optional_text?_eq_some_iff.1 hd,
          Json.optional_text?_eq_some_iff.1 hk⟩
    · cases h
  · rintro ⟨hrecord, hobject, hhash, hkey⟩
    have hcolumns : shape.columns v = some [shape.field "attestationObject" v,
        shape.field "clientDataHash" v, shape.field "keyId" v] :=
      (Json.columns_eq_some_iff nodup_names_shape).2 ⟨hrecord, rfl⟩
    rw [ofJson?, hcolumns]
    dsimp only
    rw [Json.required_text?_eq_some_iff.2 hobject, Json.optional_text?_eq_some_iff.2 hhash,
      Json.optional_text?_eq_some_iff.2 hkey]
    rfl

theorem bind_ofJson?_eq_some_iff :
    (Json.parse token).bind ofJson? = some raw ↔ raw.StandsIn token := by
  rw [Option.bind_eq_some_iff]
  simp only [ofJson?_eq_some_iff, StandsIn]

end RawEnvelope

namespace AttestEnvelope

variable {token keyId : String} {e : AttestEnvelope} {raw : RawEnvelope} {object : Bytes}

/-- What a token opens to. Each case presupposes that none of the cases before it applies. -/
inductive Opens (token keyId : String) : Except AttestEnvelope.Error AttestEnvelope → Prop
  | json (h : ∀ raw : RawEnvelope, ¬ raw.StandsIn token) : Opens token keyId (.error .json)
  | object {raw : RawEnvelope} (hraw : raw.StandsIn token) (h : ∀ object, raw.object ≠ base64 object) :
      Opens token keyId (.error (.base64 "attestationObject"))
  | empty {raw : RawEnvelope} (hraw : raw.StandsIn token) (h : raw.object = base64 []) :
      Opens token keyId (.error .emptyObject)
  | hash {raw : RawEnvelope} {object : Bytes} {written : String} (hraw : raw.StandsIn token)
      (hobject : raw.object = base64 object) (hne : object ≠ [])
      (hwritten : raw.clientDataHash = some written) (h : ∀ hash, written ≠ base64 hash) :
      Opens token keyId (.error (.base64 "clientDataHash"))
  | keyId {raw : RawEnvelope} {object : Bytes} {hash : Option Bytes} {other : String}
      (hraw : raw.StandsIn token) (hobject : raw.object = base64 object) (hne : object ≠ [])
      (hhash : raw.clientDataHash = hash.map base64) (hother : raw.keyId = some other)
      (h : other ≠ keyId) : Opens token keyId (.error .keyIdMismatch)
  | opened {raw : RawEnvelope} {e : AttestEnvelope} (hraw : raw.StandsIn token) (h : raw.Holds e)
      (hid : e.keyId = keyId) : Opens token keyId (.ok e)

theorem readHash_eq_error_iff {written : Option String} {failure : AttestEnvelope.Error} :
    readHash written = .error failure ↔
      failure = .base64 "clientDataHash" ∧ ∃ s, written = some s ∧ ∀ hash, s ≠ base64 hash := by
  cases written with
  | none => simp [readHash]
  | some s =>
      simp only [Option.some.injEq, exists_eq_left', ne_eq, ← Text.ofBase64?_eq_some_iff, readHash]
      cases Text.ofBase64? s <;> simp [eq_comm]

theorem parse_of_unreadable (h : ∀ raw : RawEnvelope, ¬ raw.StandsIn token) :
    parse token keyId = .error .json := by
  have hnone : (Json.parse token).bind RawEnvelope.ofJson? = none := by
    rw [Option.eq_none_iff_forall_ne_some]
    exact fun raw hraw => h raw (RawEnvelope.bind_ofJson?_eq_some_iff.1 hraw)
  simp only [parse, hnone]

theorem parse_of_garbled (hraw : raw.StandsIn token) (h : ∀ object, raw.object ≠ base64 object) :
    parse token keyId = .error (.base64 "attestationObject") := by
  have hnone : Text.ofBase64? raw.object = none := by
    rw [Option.eq_none_iff_forall_ne_some]
    intro object hobject
    exact h object (Text.ofBase64?_eq_some_iff.1 hobject)
  simp only [parse, RawEnvelope.bind_ofJson?_eq_some_iff.2 hraw, hnone]

theorem parse_of_empty (hraw : raw.StandsIn token) (h : raw.object = base64 []) :
    parse token keyId = .error .emptyObject := by
  have hempty : Text.ofBase64? raw.object = some [] := Text.ofBase64?_eq_some_iff.2 h
  simp only [parse, RawEnvelope.bind_ofJson?_eq_some_iff.2 hraw, hempty]
  rfl

theorem parse_of_object (hraw : raw.StandsIn token) (hobject : raw.object = base64 object)
    (hne : object ≠ []) :
    parse token keyId = (readHash raw.clientDataHash).bind fun hash =>
      if raw.keyId = none ∨ raw.keyId = some keyId then .ok ⟨object, hash, keyId⟩
      else .error .keyIdMismatch :=
  parse_eq_bind (RawEnvelope.bind_ofJson?_eq_some_iff.2 hraw)
    (Text.ofBase64?_eq_some_iff.2 hobject) hne

theorem opens_of_object (hraw : raw.StandsIn token) (hobject : raw.object = base64 object)
    (hne : object ≠ []) : Opens token keyId (parse token keyId) := by
  rw [parse_of_object hraw hobject hne]
  cases hhash : readHash raw.clientDataHash with
  | error failure =>
      obtain ⟨rfl, written, hwritten, h⟩ := readHash_eq_error_iff.1 hhash
      exact .hash hraw hobject hne hwritten h
  | ok hash =>
      have hread := readHash_eq_ok_iff.1 hhash
      rw [Except.bind]
      split
      · next hkey => exact .opened hraw ⟨hobject, hne, hread, hkey⟩ rfl
      · next hkey =>
          obtain ⟨other, hother⟩ := Option.ne_none_iff_exists'.1 (not_or.1 hkey).1
          refine .keyId hraw hobject hne hread hother ?_
          rintro rfl
          exact (not_or.1 hkey).2 hother

theorem opens_parse (token keyId : String) : Opens token keyId (parse token keyId) := by
  by_cases hread : ∃ raw : RawEnvelope, raw.StandsIn token
  · obtain ⟨raw, hraw⟩ := hread
    by_cases hdecode : ∃ object, raw.object = base64 object
    · obtain ⟨object, hobject⟩ := hdecode
      by_cases hne : object = []
      · subst hne
        rw [parse_of_empty hraw hobject]
        exact .empty hraw hobject
      · exact opens_of_object hraw hobject hne
    · have h := not_exists.1 hdecode
      rw [parse_of_garbled hraw h]
      exact .object hraw h
  · have h := not_exists.1 hread
    rw [parse_of_unreadable h]
    exact .json h

theorem parse_eq_iff {r : Except AttestEnvelope.Error AttestEnvelope} :
    parse token keyId = r ↔ Opens token keyId r := by
  constructor
  · rintro rfl
    exact opens_parse token keyId
  · intro h
    cases h with
    | json h => exact parse_of_unreadable h
    | object hraw h => exact parse_of_garbled hraw h
    | empty hraw h => exact parse_of_empty hraw h
    | hash hraw hobject hne hwritten h =>
        rw [parse_of_object hraw hobject hne, readHash_eq_error_iff.2 ⟨rfl, _, hwritten, h⟩]
        rfl
    | keyId hraw hobject hne hhash hother h =>
        rw [parse_of_object hraw hobject hne, readHash_eq_ok_iff.2 hhash, Except.bind, hother,
          if_neg (by simpa using h)]
    | opened hraw h hid =>
        subst hid
        rw [parse_of_object hraw h.object h.object_ne_nil, readHash_eq_ok_iff.2 h.clientDataHash,
          Except.bind, if_pos h.keyId]

/-- The fields of an envelope. The hash and the key id may be left out, or be null. -/
def fields (object : Bytes) (hash : Option (Option Bytes)) (keyId : Option (Option String)) :
    List (String × Json) :=
  ("attestationObject", .ofBase64 object) ::
    (hash.map fun h => ("clientDataHash", .ofOption .ofBase64 h)).toList ++
    (keyId.map fun k => ("keyId", .ofOption .ofText k)).toList

section

variable {hash : Option (Option Bytes)} {named : Option (Option String)}
  {written others : List (String × Json)}

theorem nodup_names_fields (object : Bytes) (hash : Option (Option Bytes))
    (named : Option (Option String)) : ((fields object hash named).map Prod.fst).Nodup := by
  cases hash <;> cases named <;> simp [fields]

theorem isIn_record (hwritten : written.Perm (fields object hash named ++ others))
    (hothers : ∀ f ∈ others, f.1 ∉ RawEnvelope.shape.names) :
    RawEnvelope.IsIn ⟨base64 object, hash.join.map base64, named.join⟩ (.record written) where
  record := Json.isRecord_record hwritten hothers (nodup_names_fields object hash named)
  object := Json.field_record_of_mem hwritten hothers (nodup_names_fields object hash named)
    (by decide) List.mem_cons_self
  clientDataHash := Json.isOptionalText_record .ofBase64 base64 (fun _ => rfl) hwritten hothers
    (nodup_names_fields object hash named) (by decide) (by rintro c rfl; simp [fields])
    (by rintro rfl; cases named <;> simp [fields])
  keyId := by
    have h : IsOptionalText (RawEnvelope.shape.field "keyId" (.record written))
        (named.join.map id) :=
      Json.isOptionalText_record .ofText id (fun _ => rfl) hwritten hothers
        (nodup_names_fields object hash named) (by decide) (by rintro c rfl; simp [fields])
        (by rintro rfl; cases hash <;> simp [fields])
    rwa [Option.map_id] at h

end

theorem parse_written {hash : Option (Option Bytes)} {named : Option (Option String)}
    {written others : List (String × Json)} (hne : object ≠ [])
    (hwritten : written.Perm (fields object hash named ++ others))
    (hothers : ∀ f ∈ others, f.1 ∉ RawEnvelope.shape.names)
    (htoken : Json.parse token = Json.parse (Json.record written).toText) :
    parse token keyId =
      if named.join = none ∨ named.join = some keyId then .ok ⟨object, hash.join, keyId⟩
      else .error .keyIdMismatch := by
  rw [Json.parse_toText] at htoken
  have hraw : RawEnvelope.StandsIn ⟨base64 object, hash.join.map base64, named.join⟩ token :=
    ⟨_, htoken, isIn_record hwritten hothers⟩
  rw [parse_of_object hraw rfl hne, readHash_eq_ok_iff.2 rfl, Except.bind]

theorem isWrittenIn_iff : e.IsWrittenIn token ↔
    e.object ≠ [] ∧ ∃ v, Json.parse token = some v ∧ RawEnvelope.shape.IsRecord v ∧
      RawEnvelope.shape.field "attestationObject" v = some (.ofText (base64 e.object)) ∧
      IsOptionalText (RawEnvelope.shape.field "clientDataHash" v) (e.clientDataHash.map base64) ∧
      (IsOptionalText (RawEnvelope.shape.field "keyId" v) none ∨
        IsOptionalText (RawEnvelope.shape.field "keyId" v) (some e.keyId)) := by
  constructor
  · rintro ⟨v, raw, hv, hread, hobject, hne, hhash, hkey⟩
    obtain ⟨hrecord, hin, hinhash, hinkey⟩ := RawEnvelope.ofJson?_eq_some_iff.1 hread
    rw [hobject] at hin
    rw [hhash] at hinhash
    refine ⟨hne, v, hv, hrecord, hin, hinhash, ?_⟩
    rcases hkey with hkey | hkey
    · exact .inl (hkey ▸ hinkey)
    · exact .inr (hkey ▸ hinkey)
  · rintro ⟨hne, v, hv, hrecord, hin, hinhash, hkey | hkey⟩
    · exact ⟨v, ⟨_, _, none⟩, hv, RawEnvelope.ofJson?_eq_some_iff.2 ⟨hrecord, hin, hinhash, hkey⟩, rfl,
        hne, rfl, .inl rfl⟩
    · exact ⟨v, ⟨_, _, some _⟩, hv, RawEnvelope.ofJson?_eq_some_iff.2 ⟨hrecord, hin, hinhash, hkey⟩,
        rfl, hne, rfl, .inr rfl⟩

/-- An envelope with an object that is written as a record opens again for the key id that it names, or
for any if it names none, whatever the order of its fields is and what other fields there are. A token
that opens to an envelope is a record, by names or by places, in which the object and the hash stand
in base 64, and the key id if it stands there. And every token has one outcome, which is the first
error that there is or else an envelope. -/
theorem parse_exact :
    (∀ (object : Bytes) (hash : Option (Option Bytes)) (named : Option (Option String))
      (written others : List (String × Json)) (token supplied : String), object ≠ [] →
      written.Perm (fields object hash named ++ others) →
      (∀ f ∈ others, f.1 ∉ RawEnvelope.shape.names) →
      Json.parse token = Json.parse (Json.record written).toText →
        parse token supplied =
          if named.join = none ∨ named.join = some supplied then .ok ⟨object, hash.join, supplied⟩
          else .error .keyIdMismatch) ∧
    (∀ (token supplied : String) (e : AttestEnvelope), parse token supplied = .ok e ↔
      e.keyId = supplied ∧ e.object ≠ [] ∧ ∃ v, Json.parse token = some v ∧
        RawEnvelope.shape.IsRecord v ∧
        RawEnvelope.shape.field "attestationObject" v = some (.ofText (base64 e.object)) ∧
        IsOptionalText (RawEnvelope.shape.field "clientDataHash" v) (e.clientDataHash.map base64) ∧
        (IsOptionalText (RawEnvelope.shape.field "keyId" v) none ∨
          IsOptionalText (RawEnvelope.shape.field "keyId" v) (some e.keyId))) ∧
    ∀ (token supplied : String) (r : Except AttestEnvelope.Error AttestEnvelope),
      parse token supplied = r ↔ Opens token supplied r := by
  refine ⟨?_, ?_, ?_⟩
  · intro object hash named written others token supplied hne hwritten hothers htoken
    exact parse_written hne hwritten hothers htoken
  · intro token supplied e
    rw [parse_eq_ok_iff, isWrittenIn_iff]
  · intro token supplied r
    exact parse_eq_iff

def awkward : List (String × Json) := fields [255] (some none) (some (some "\"\\\n"))

theorem parse_exact_awkward :
    parse (Json.record awkward).toText "\"\\\n" = .ok ⟨[255], none, "\"\\\n"⟩ ∧
      parse (Json.record awkward).toText "n" = .error .keyIdMismatch ∧
      Opens "[\"/w\",1]" "n" (.error .json) := by
  obtain ⟨hwritten, -, hopens⟩ := parse_exact
  have hperm : awkward.Perm (fields [255] (some none) (some (some "\"\\\n")) ++ []) := by
    rw [List.append_nil]
    exact .rfl
  have hnone : ∀ f ∈ ([] : List (String × Json)), f.1 ∉ RawEnvelope.shape.names :=
    fun f hf => absurd hf List.not_mem_nil
  refine ⟨?_, ?_, (hopens _ _ _).1 (by decide +kernel)⟩
  · exact hwritten _ _ _ awkward [] _ _ (List.cons_ne_nil _ _) hperm hnone rfl
  · exact hwritten _ _ _ awkward [] _ _ (List.cons_ne_nil _ _) hperm hnone rfl

end AttestEnvelope

end RelayGate
