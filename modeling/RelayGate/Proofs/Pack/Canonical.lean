import RelayGate.Proofs.Pack.Issuer
import RelayGate.Proofs.Pack.Wire
import RelayGate.Proofs.Relay.Selection

namespace RelayGate

theorem Bytes.ofText_injective {s t : String} (h : ofText s = ofText t) : s = t := by
  apply String.toByteArray_inj.1
  apply ByteArray.ext
  exact Array.toList_inj.1 h

theorem Json.record_injective {fs gs : List (String × Json)} (h : record fs = record gs) :
    fs = gs := by
  apply (List.map_inj_right fun f g hfg => ?_).1 (Json.object.inj h)
  obtain ⟨hname, hvalue⟩ := Prod.mk.inj hfg
  exact Prod.ext (Option.some.inj hname) hvalue

theorem Json.eq_of_read {α : Type} {f : Json → Option α} {v w : Json} {a b : α}
    (ha : f v = some a) (hb : f w = some b) (h : v = w) : a = b := by
  rw [h, hb] at ha
  exact (Option.some.inj ha).symm

namespace Pack

open Json

theorem unsignedJson_inj {p q : Pack} (h : p.canonical = q.canonical) :
    p.unsignedJson = q.unsignedJson :=
  toText_injective (Bytes.ofText_injective h)

theorem eq_of_canonical {p q : Pack} (hp : p.HasFiniteLoads) (hq : q.HasFiniteLoads)
    (h : p.canonical = q.canonical) :
    p.version = q.version ∧ p.timestamp = q.timestamp ∧ p.endpoints = q.endpoints ∧
      p.transports = q.transports ∧ p.discovery = q.discovery ∧ p.metadata = q.metadata ∧
      p.publicKey = q.publicKey := by
  have hf := record_injective (unsignedJson_inj h)
  simp only [contentFields, List.cons_append, List.nil_append, List.cons.injEq, Prod.mk.injEq,
    true_and, and_true] at hf
  obtain ⟨hversion, htime, hends, htrans, hdisc, hmeta, hkey⟩ := hf
  refine ⟨?_, ?_, ?_, ?_, ?_, ?_, ?_⟩
  · exact eq_of_read (text?_ofText _) (text?_ofText _) hversion
  · exact eq_of_read (uint64?_ofNat _) (uint64?_ofNat _) htime
  · exact eq_of_read (list?_endpoints hp) (list?_endpoints hq) hends
  · exact eq_of_read p.list?_transports q.list?_transports htrans
  · exact eq_of_read p.discovery.ofJson?_toJson q.discovery.ofJson?_toJson hdisc
  · exact eq_of_read (textMap?_ofTextMap _) (textMap?_ofTextMap _) hmeta
  · exact eq_of_read (base64?_ofBase64 _) (base64?_ofBase64 _) hkey

theorem canonical_congr {p q : Pack} (hversion : p.version = q.version)
    (htime : p.timestamp = q.timestamp) (hends : p.endpoints = q.endpoints)
    (htrans : p.transports = q.transports) (hdisc : p.discovery = q.discovery)
    (hmeta : p.metadata = q.metadata) (hkey : p.publicKey = q.publicKey) :
    p.canonical = q.canonical := by
  rw [canonical, canonical, canonicalText, canonicalText, unsignedJson, unsignedJson,
    contentFields, contentFields, hversion, htime, hends, htrans, hdisc, hmeta, hkey]

/-- The signed bytes of packs with finite loads tell all their content apart from the signature, and
loads are finite in every pack that is issued or read. -/
theorem canonical_fixes_content :
    (∀ p q : Pack, p.HasFiniteLoads → q.HasFiniteLoads →
      (p.canonical = q.canonical ↔
        p.version = q.version ∧ p.timestamp = q.timestamp ∧ p.endpoints = q.endpoints ∧
          p.transports = q.transports ∧ p.discovery = q.discovery ∧ p.metadata = q.metadata ∧
          p.publicKey = q.publicKey)) ∧
    (∀ (b : Issuer) (l : Lookup) (now : Clock) (client hint : String) (preferred : List String)
      (verdict : Option Verdict) (region : String) (p : Pack),
      b.issue l now client hint preferred verdict = .ok (region, p) → p.HasFiniteLoads) ∧
    ∀ (t : String) (p : Pack), parse t = some p → p.HasFiniteLoads := by
  refine ⟨?_, ?_, ?_⟩
  · intro p q hp hq
    constructor
    · exact eq_of_canonical hp hq
    · rintro ⟨hversion, htime, hends, htrans, hdisc, hmeta, hkey⟩
      exact canonical_congr hversion htime hends htrans hdisc hmeta hkey
  · intro b l now client hint preferred verdict region p h
    exact Issuer.hasFiniteLoads_issue h
  · intro t p h
    exact hasFiniteLoads_of_parse h

def specimenDirectory : Directory :=
  ⟨[⟨"decoy", [], "a", 443, [], [], Region.fallback, 1, some 3, .active, true, none⟩], []⟩

theorem canonical_fixes_content_specimen :
    specimen.canonical = { specimen with signature := [] }.canonical ∧
      specimen.canonical ≠ { specimen with transports := Catalog.transports }.canonical ∧
      (∃ p, (Issuer.new ⟨[], true⟩ .replace).issue specimenDirectory.lookup ⟨0⟩ "client" "" [] none =
        .ok (Region.fallback, p) ∧ p.HasFiniteLoads) ∧
      specimen.HasFiniteLoads := by
  have hload : specimen.HasFiniteLoads := by decide +kernel
  have hregion : specimenDirectory.lookup.chooseRegion "" [] = Region.fallback := by decide +kernel
  have hchoose : specimenDirectory.lookup.choose .replace (specimenDirectory.lookup.chooseRegion "" [])
      none defaultLimit = .ok (leastLoaded specimenDirectory.rows defaultLimit) := by
    rw [hregion, Lookup.choose_replace rfl]
    rfl
  obtain ⟨hcanonical, hissued, hread⟩ := canonical_fixes_content
  refine ⟨?_, ?_, ?_, ?_⟩
  · exact (hcanonical specimen { specimen with signature := [] } hload hload).2
      ⟨rfl, rfl, rfl, rfl, rfl, rfl, rfl⟩
  · intro h
    obtain ⟨-, -, -, htrans, -⟩ :=
      (hcanonical specimen { specimen with transports := Catalog.transports } hload hload).1 h
    exact absurd htrans (by decide +kernel)
  · have hissue := Issuer.issue_of_choose (b := .new ⟨[], true⟩ .replace) hchoose ⟨0⟩ "client"
    rw [hregion] at hissue
    exact ⟨_, hissue, hissued _ _ _ _ _ _ _ _ _ hissue⟩
  · exact hread specimen.toText specimen (parse_toText hload)

end Pack

end RelayGate
