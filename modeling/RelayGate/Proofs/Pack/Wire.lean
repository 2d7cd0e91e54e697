import RelayGate.Pack.Signature
import RelayGate.Proofs.Json.Record

namespace RelayGate

open Json

theorem RelayCard.ofJson?_toJson {e : RelayCard} (h : e.load.isFinite) : ofJson? e.toJson = some e := by
  rw [ofJson?, toJson, columns_record rfl (by decide)]
  simp [binary64?_ofBinary64 h]

theorem Transport.ofJson?_toJson (t : Transport) : ofJson? t.toJson = some t := by
  rw [ofJson?, toJson, columns_record rfl (by decide)]
  simp

theorem Discovery.ofJson?_toJson (d : Discovery) : ofJson? d.toJson = some d := by
  rw [ofJson?, toJson, columns_record rfl (by decide)]
  simp

theorem RelayCard.isFinite_of_ofJson? {v : Json} {e : RelayCard} (h : ofJson? v = some e) :
    e.load.isFinite := by
  rw [ofJson?] at h
  split at h
  · simp only [Option.bind_eq_bind, Option.bind_eq_some_iff, Option.pure_def, Option.some.injEq] at h
    obtain ⟨_, _, _, _, _, _, _, _, _, _, load, hload, _, _, _, _, rfl⟩ := h
    obtain ⟨w, hw⟩ := exists_of_required hload
    exact isFinite_of_binary64? hw
  · exact absurd h (by simp)

namespace Pack

def HasFiniteLoads (p : Pack) : Prop := ∀ e ∈ p.endpoints, e.load.isFinite

instance (p : Pack) : Decidable p.HasFiniteLoads :=
  inferInstanceAs (Decidable (∀ e ∈ p.endpoints, e.load.isFinite))

theorem list?_endpoints {p : Pack} (h : p.HasFiniteLoads) :
    list? RelayCard.ofJson? (.array (p.endpoints.map RelayCard.toJson)) = some p.endpoints :=
  list?_array fun e he => RelayCard.ofJson?_toJson (h e he)

theorem list?_transports (p : Pack) :
    list? Transport.ofJson? (.array (p.transports.map Transport.toJson)) = some p.transports :=
  list?_array fun t _ => t.ofJson?_toJson

theorem ofJson?_toJson {p : Pack} (h : p.HasFiniteLoads) : ofJson? p.toJson = some p := by
  rw [ofJson?, toJson, contentFields, columns_record rfl (by decide)]
  simp [list?_endpoints h, list?_transports, Discovery.ofJson?_toJson]

theorem hasFiniteLoads_of_ofJson? {v : Json} {p : Pack} (h : ofJson? v = some p) :
    p.HasFiniteLoads := by
  rw [ofJson?] at h
  split at h
  · simp only [Option.bind_eq_bind, Option.bind_eq_some_iff, Option.pure_def, Option.some.injEq] at h
    obtain ⟨_, _, _, _, es, hes, _, _, _, _, _, _, _, _, _, _, rfl⟩ := h
    obtain ⟨w, hw⟩ := exists_of_required hes
    intro e he
    obtain ⟨u, hu⟩ := exists_of_list? hw e he
    exact RelayCard.isFinite_of_ofJson? hu
  · exact absurd h (by simp)

theorem hasFiniteLoads_of_parse {t : String} {p : Pack} (h : parse t = some p) :
    p.HasFiniteLoads := by
  obtain ⟨v, _, hv⟩ := Option.bind_eq_some_iff.1 h
  exact hasFiniteLoads_of_ofJson? hv

theorem parse_toText {p : Pack} (h : p.HasFiniteLoads) : parse p.toText = some p := by
  rw [parse, toText, Json.parse_toText, Option.bind_some, ofJson?_toJson h]

/-- A pack comes out of its text as it went in, so every check of it comes out the same; and however
a text spells a pack, writing the pack settles on one spelling. -/
theorem wire_roundTrip :
    (∀ p : Pack, p.HasFiniteLoads → ∃ q, parse p.toText = some q ∧ q = p ∧
      q.canonical = p.canonical ∧ q.isAuthentic = p.isAuthentic ∧
      ∀ key, q.isAuthenticFor key = p.isAuthenticFor key) ∧
    ∀ (t : String) (p : Pack), parse t = some p →
      parse p.toText = some p ∧ (parse p.toText).map toText = some p.toText := by
  refine ⟨?_, ?_⟩
  · intro p h
    exact ⟨p, parse_toText h, rfl, rfl, rfl, fun _ => rfl⟩
  · intro t p h
    have hp : parse p.toText = some p := parse_toText (hasFiniteLoads_of_parse h)
    refine ⟨hp, ?_⟩
    rw [hp, Option.map_some]

def specimen : Pack where
  version := "1.0"
  timestamp := 18446744073709551615
  endpoints := [⟨"é", "a", 443, ["ssh"], "eu", .ofRatio 1 2, false, [0, 255]⟩]
  transports := []
  discovery := ⟨["gps"], 300, true⟩
  metadata := .ofList [("k", "new")]
  signature := [1]
  publicKey := []

def specimenText : String :=
  "[\"1.0\", 18446744073709551615, [[\"\\u00e9\", \"a\", 443, [\"ssh\"], \"eu\", 5e-1, false, \"AP8=\"]], [],
    \x7b\"battery_aware\": true, \"x\": [null], \"scan_interval\": 300, \"channels\": [\"g\\u0070s\"]\x7d,
    \x7b\"k\": \"old\", \"\\u006b\": \"new\"\x7d, \"AQ==\", \"\"]"

theorem wire_roundTrip_specimen :
    parse specimenText = some specimen ∧ specimen.HasFiniteLoads ∧
      (∃ q, parse specimen.toText = some q ∧ q = specimen ∧ q.canonical = specimen.canonical ∧
        q.isAuthentic = specimen.isAuthentic ∧
        ∀ key, q.isAuthenticFor key = specimen.isAuthenticFor key) ∧
      (parse specimen.toText).map toText = some specimen.toText := by
  have hload : specimen.HasFiniteLoads := by decide +kernel
  have htext : parse specimenText = some specimen := by decide +kernel
  exact ⟨htext, hload, wire_roundTrip.1 specimen hload, (wire_roundTrip.2 specimenText specimen htext).2⟩

end Pack

end RelayGate
