import RelayGate.Proofs.Pack.Resolution
import RelayGate.Proofs.Service.Start

namespace RelayGate

open SigningKey (IsVisible Holds Agrees)
open Text (Surrounds)

namespace ConfiguredKeys

def HasPrivate (m : ConfiguredKeys) : Prop := ∃ text, m.privateKey = some text ∧ IsVisible text

def Announces (m : ConfiguredKeys) (text : String) : Prop := m.publicKey = some text ∧ IsVisible text

/-- The key is the one that the configuration asks for: one of a private key that is configured is the
one that is announced, and one that is made up is allowed. -/
structure Permits (m : ConfiguredKeys) (fresh : Bytes) (k : SigningKey) : Prop where
  configured : m.HasPrivate → k.ephemeral = false ∧ ∀ text, m.Announces text →
    k.verifyingKey.bytes.length = 32 ∧ Surrounds text k.verifyingKey.bytes
  generated : ¬ m.HasPrivate → m.allowEphemeral = true ∧ k = ⟨fresh, true⟩

end ConfiguredKeys

namespace SigningKey

variable {m : ConfiguredKeys} {fresh : Bytes} {k : SigningKey}

theorem ofPrivate_eq_ok_iff {text : String} {publicText : Option String} :
    ofPrivate text publicText = .ok k ↔
      k.ephemeral = false ∧ Holds text k.seed ∧ Agrees k.seed publicText := by
  rw [ofPrivate_eq_iff]
  constructor
  · rintro ⟨⟩
    next hseed hagrees => exact ⟨rfl, hseed, hagrees⟩
  · obtain ⟨seed, ephemeral⟩ := k
    rintro ⟨rfl, hseed, hagrees⟩
    exact .resolved hseed hagrees

theorem resolve_of_not_hasPrivate (h : ¬ m.HasPrivate) (fresh : Bytes) : resolve m fresh =
    if m.allowEphemeral then .ok ⟨fresh, true⟩ else .error .missingPrivateKey := by
  have hnone : (m.privateKey.filter fun s => !isBlankText s) = none := by
    apply Option.eq_none_iff_forall_ne_some.2
    intro text htext
    exact h ⟨text, filter_visible_eq_some_iff.1 htext⟩
  rw [resolve, hnone]

theorem permits_of_resolve (h : resolve m fresh = .ok k) : m.Permits fresh k := by
  constructor
  · rintro ⟨private', hprivate, hvisible⟩
    rw [resolve_of_visible hprivate hvisible, ofPrivate_eq_ok_iff] at h
    obtain ⟨hephemeral, -, hagrees⟩ := h
    refine ⟨hephemeral, ?_⟩
    rintro text ⟨htext, hannounced⟩
    exact ⟨Ed25519.length_publicKey k.seed, hagrees text htext hannounced⟩
  · intro hnone
    rw [resolve_of_not_hasPrivate hnone] at h
    split at h
    · next hallowed => exact ⟨hallowed, (Except.ok.inj h).symm⟩
    · exact nomatch h

end SigningKey

namespace Service

/-- Whatever keys are configured and whatever seed is made up, a key that is resolved, and so the key
of a service that starts, is the announced one if a private key is configured: what is announced is the
base 64 of its thirty-two bytes, with blanks around it or not. Without a private key it is the one that
was made up, which has to be allowed. -/
theorem signs_as_announced :
    (∀ m fresh k, SigningKey.resolve m fresh = .ok k → m.Permits fresh k) ∧
    ∀ settings connector validator fresh service,
      start settings connector validator fresh = .ok service →
        settings.keys.Permits fresh service.issuer.key := by
  refine ⟨fun m fresh k => SigningKey.permits_of_resolve, ?_⟩
  intro settings connector validator fresh service hstart
  obtain ⟨key, hkey, rfl⟩ := start_ok hstart
  exact SigningKey.permits_of_resolve hkey

def announcedPair : ConfiguredKeys where
  privateKey := some (Text.base64 (List.replicate 32 42))
  publicKey := some (" " ++ Text.base64 (Ed25519.publicKey (List.replicate 32 42)) ++ "\n")
  allowEphemeral := true

/-- No private key, beside a public key that is no key at all. -/
def publicOnly : ConfiguredKeys := ⟨none, some "***", true⟩

theorem signs_as_announced_pair :
    announcedPair.HasPrivate ∧ (∃ text, announcedPair.Announces text) ∧
    (∀ fresh, ∃ k, SigningKey.resolve announcedPair fresh = .ok k ∧ k.ephemeral = false ∧
      ∀ text, announcedPair.Announces text → Surrounds text k.verifyingKey.bytes) ∧
    ¬ publicOnly.HasPrivate ∧ publicOnly.Announces "***" ∧
    ∀ fresh, ∃ service, start { Settings.standard with keys := publicOnly } none none fresh =
      .ok service ∧ service.issuer.key = ⟨fresh, true⟩ := by
  have hfront : " ".toList.all Text.isBlank = true := by decide
  have hback : "\n".toList.all Text.isBlank = true := by decide
  have hpublic : Surrounds (" " ++ Text.base64 (Ed25519.publicKey (List.replicate 32 42)) ++ "\n")
      (Ed25519.publicKey (List.replicate 32 42)) :=
    ⟨" ", "\n", rfl, List.all_eq_true.1 hfront, List.all_eq_true.1 hback⟩
  have hne : Ed25519.publicKey (List.replicate 32 42) ≠ [] := by
    apply List.ne_nil_of_length_pos
    rw [Ed25519.length_publicKey]
    decide
  have hseed : Holds (Text.base64 (List.replicate 32 42)) (List.replicate 32 42) :=
    .alone rfl (Text.surrounds_base64 _)
  have hprivate : announcedPair.HasPrivate := ⟨_, rfl, hseed.isVisible⟩
  have hnone : ¬ publicOnly.HasPrivate := fun ⟨_, htext, _⟩ => nomatch htext
  refine ⟨hprivate, ⟨_, rfl, SigningKey.isVisible_of_surrounds hpublic hne⟩, ?_, hnone,
    ⟨rfl, '*', by decide, by decide⟩, ?_⟩
  · intro fresh
    have hkey : SigningKey.resolve announcedPair fresh = .ok ⟨List.replicate 32 42, false⟩ := by
      rw [SigningKey.resolve_of_visible rfl hseed.isVisible, SigningKey.ofPrivate_eq_ok_iff]
      refine ⟨rfl, hseed, ?_⟩
      rintro text htext -
      rwa [← Option.some.inj htext]
    obtain ⟨hephemeral, hannounced⟩ := (signs_as_announced.1 _ _ _ hkey).configured hprivate
    exact ⟨_, hkey, hephemeral, fun text htext => (hannounced text htext).2⟩
  · intro fresh
    have hstart : start { Settings.standard with keys := publicOnly } none none fresh = .ok
        ⟨⟨[.play (.new .standard none none), .appAttest ⟨.standard, none⟩]⟩,
          .new ⟨fresh, true⟩ .replace⟩ := rfl
    obtain ⟨-, hkey⟩ := (signs_as_announced.2 _ _ _ _ _ hstart).generated hnone
    exact ⟨_, hstart, hkey⟩

theorem signs_unannounced :
    ¬ ∀ (m : ConfiguredKeys) (fresh : Bytes) (k : SigningKey) (text : String), fresh.length = 32 →
      SigningKey.resolve m fresh = .ok k → m.Announces text →
        ∃ bytes, bytes.length = 32 ∧ Surrounds text bytes ∧ k.verifyingKey.bytes = bytes := by
  intro h
  have hvisible : IsVisible "***" := ⟨'*', by decide, by decide⟩
  obtain ⟨bytes, -, hsurrounds, -⟩ := h publicOnly (List.replicate 32 0)
    ⟨List.replicate 32 0, true⟩ "***" rfl rfl ⟨rfl, hvisible⟩
  have hread := Text.ofBase64?_trim_eq_some_iff.2 hsurrounds
  have hnone : Text.ofBase64? (Text.trim "***") = none := by decide +kernel
  exact nomatch hnone.symm.trans hread

end Service

end RelayGate
