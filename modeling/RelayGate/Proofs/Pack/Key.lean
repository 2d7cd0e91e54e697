import RelayGate.Proofs.Except
import RelayGate.Proofs.Pack.Signature
import RelayGate.Proofs.Text.Blank

namespace RelayGate

namespace SigningKey

/-- The text is base 64 of the seed, or of the seed with its public key behind it. -/
def Spells (text : String) (seed : Bytes) : Prop :=
  seed.length = 32 ∧ ∃ key, Text.ofBase64? (Text.trim text) = some key ∧
    (key = seed ∨ key = seed ++ Ed25519.publicKey seed)

theorem Spells.of_trim {text : String} {seed : Bytes} (h : Spells (Text.trim text) seed) :
    Spells text seed := by
  rwa [Spells, Text.trim_trim] at h

theorem decodeHalf_eq_ok {half text : String} {key : Bytes} :
    decodeHalf half text = .ok key ↔ Text.ofBase64? (Text.trim text) = some key := by
  rw [decodeHalf]
  cases Text.ofBase64? (Text.trim text) with
  | none =>
      constructor
      · intro h
        exact nomatch h
      · intro h
        exact nomatch h
  | some bs => rw [Except.ok.injEq, Option.some.injEq]

theorem seedOf_eq_ok {key seed : Bytes} : seedOf key = .ok seed ↔
    seed.length = 32 ∧ (key = seed ∨ key = seed ++ Ed25519.publicKey seed) := by
  have hpublic : (Ed25519.publicKey seed).length = 32 := Ed25519.length_publicKey seed
  constructor
  · intro h
    rw [seedOf] at h
    split at h
    · next hlength =>
        obtain rfl := Except.ok.inj h
        exact ⟨hlength, .inl rfl⟩
    · split at h
      · next hlength =>
          split at h
          · next hpair =>
              obtain rfl := Except.ok.inj h
              refine ⟨by rw [List.length_take, hlength]; rfl, .inr ?_⟩
              rw [hpair, List.take_append_drop]
          · exact nomatch h
      · exact nomatch h
  · rintro ⟨hseed, rfl | rfl⟩
    · rw [seedOf, if_pos hseed]
    · have hlength : (seed ++ Ed25519.publicKey seed).length = 64 := by
        rw [List.length_append, hseed, hpublic]
      rw [seedOf, if_neg (by rw [hlength]; decide), if_pos hlength, List.take_left' hseed,
        List.drop_left' hseed, if_pos rfl]

theorem ofPrivate_ok {text : String} {publicText : Option String} {k : SigningKey}
    (h : ofPrivate text publicText = .ok k) : k.ephemeral = false ∧ Spells text k.seed := by
  obtain ⟨key, hkey, h⟩ := Except.bind_eq_ok.1 h
  obtain ⟨seed, hseed, h⟩ := Except.bind_eq_ok.1 h
  have hk : k = ⟨seed, false⟩ := by
    dsimp only at h
    split at h
    · obtain ⟨-, -, h⟩ := Except.bind_eq_ok.1 h
      exact (Except.ok.inj h).symm
    · exact (Except.ok.inj h).symm
  subst hk
  obtain ⟨hlength, hspelt⟩ := seedOf_eq_ok.1 hseed
  exact ⟨rfl, hlength, key, decodeHalf_eq_ok.1 hkey, hspelt⟩

theorem resolve_ok {m : ConfiguredKeys} {fresh : Bytes} {k : SigningKey}
    (h : resolve m fresh = .ok k) :
    (∃ text, m.privateKey = some text ∧ k.ephemeral = false ∧ Spells text k.seed) ∨
      m.allowEphemeral = true ∧ k = ⟨fresh, true⟩ := by
  rw [resolve] at h
  split at h
  · next text htext => exact .inl ⟨text, Option.eq_some_of_filter_eq_some htext, ofPrivate_ok h⟩
  · split at h
    · next hallow => exact .inr ⟨hallow, (Except.ok.inj h).symm⟩
    · exact nomatch h

end SigningKey

end RelayGate
