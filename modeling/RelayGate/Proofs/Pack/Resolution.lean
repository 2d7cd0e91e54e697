import RelayGate.Proofs.Pack.Key
import RelayGate.Proofs.Text.Surrounded

namespace RelayGate

namespace SigningKey

open Text (Surrounds)

def IsVisible (text : String) : Prop := ∃ c ∈ text.toList, Text.isBlank c = false

/-- The text holds the seed, alone or with its public key behind it. -/
inductive Holds (text : String) (seed : Bytes) : Prop
  | alone (hlength : seed.length = 32) (h : Surrounds text seed)
  | pair (hlength : seed.length = 32) (h : Surrounds text (seed ++ Ed25519.publicKey seed))

inductive PrivateFault (text : String) : SigningKey.Error → Prop
  | encoding (h : ∀ key, ¬ Surrounds text key) : PrivateFault text (.encoding "private")
  | length {key : Bytes} (h : Surrounds text key) (hseed : key.length ≠ 32)
      (hpair : key.length ≠ 64) : PrivateFault text (.privateKeyLength key.length)
  | inconsistent {seed half : Bytes} (h : Surrounds text (seed ++ half)) (hseed : seed.length = 32)
      (hhalf : half.length = 32) (hne : half ≠ Ed25519.publicKey seed) :
      PrivateFault text .inconsistentKeypair

inductive PublicFault (seed : Bytes) (text : String) : SigningKey.Error → Prop
  | encoding (h : ∀ key, ¬ Surrounds text key) : PublicFault seed text (.encoding "public")
  | length {key : Bytes} (h : Surrounds text key) (hlength : key.length ≠ 32) :
      PublicFault seed text (.publicKeyLength key.length)
  | mismatch {key : Bytes} (h : Surrounds text key) (hlength : key.length = 32)
      (hne : key ≠ Ed25519.publicKey seed) : PublicFault seed text .publicKeyMismatch

def Agrees (seed : Bytes) (publicText : Option String) : Prop :=
  ∀ text, publicText = some text → IsVisible text → Surrounds text (Ed25519.publicKey seed)

/-- What comes of a private key and the public key beside it. -/
inductive Resolves (text : String) (publicText : Option String) :
    Except SigningKey.Error SigningKey → Prop
  | badPrivate {e : SigningKey.Error} (h : PrivateFault text e) : Resolves text publicText (.error e)
  | badPublic {seed : Bytes} {beside : String} {e : SigningKey.Error} (hseed : Holds text seed)
      (hbeside : publicText = some beside) (hvisible : IsVisible beside)
      (h : PublicFault seed beside e) : Resolves text publicText (.error e)
  | resolved {seed : Bytes} (hseed : Holds text seed) (h : Agrees seed publicText) :
      Resolves text publicText (.ok ⟨seed, false⟩)

theorem isBlankText_eq_false_iff {text : String} : isBlankText text = false ↔ IsVisible text := by
  rw [← Bool.not_eq_true, isBlankText, Text.isEmpty_trim_iff, IsVisible]
  push Not
  simp only [Bool.not_eq_true]

theorem filter_visible_eq_some_iff {o : Option String} {text : String} :
    (o.filter fun s => !isBlankText s) = some text ↔ o = some text ∧ IsVisible text := by
  rw [Option.filter_eq_some_iff, Bool.not_eq_true', isBlankText_eq_false_iff]

theorem isVisible_of_surrounds {text : String} {key : Bytes} (h : Surrounds text key)
    (hne : key ≠ []) : IsVisible text := by
  rw [← isBlankText_eq_false_iff, isBlankText, Text.trim_of_surrounds h, ← Bool.not_eq_true,
    String.isEmpty_iff]
  intro hempty
  exact hne (Text.base64_inj.1 hempty)

theorem decodeHalf_eq_ok_iff {half text : String} {key : Bytes} :
    decodeHalf half text = .ok key ↔ Surrounds text key := by
  rw [decodeHalf_eq_ok, Text.ofBase64?_trim_eq_some_iff]

theorem decodeHalf_eq_error_iff {half text : String} {e : SigningKey.Error} :
    decodeHalf half text = .error e ↔ e = .encoding half ∧ ∀ key, ¬ Surrounds text key := by
  simp only [← Text.ofBase64?_trim_eq_some_iff, decodeHalf]
  cases Text.ofBase64? (Text.trim text) <;> simp [eq_comm]

theorem seedOf_eq_error_iff {key : Bytes} {e : SigningKey.Error} : seedOf key = .error e ↔
    (key.length ≠ 32 ∧ key.length ≠ 64 ∧ e = .privateKeyLength key.length) ∨
      ∃ seed half, key = seed ++ half ∧ seed.length = 32 ∧ half.length = 32 ∧
        half ≠ Ed25519.publicKey seed ∧ e = .inconsistentKeypair := by
  constructor
  · intro h
    rw [seedOf] at h
    split at h
    · cases h
    · next hseed =>
        split at h
        · next hpair =>
            split at h
            · cases h
            · next hne =>
                refine .inr ⟨key.take 32, key.drop 32, (List.take_append_drop 32 key).symm, ?_, ?_,
                  Ne.symm hne, (Except.error.inj h).symm⟩
                · rw [List.length_take, hpair]
                  rfl
                · rw [List.length_drop, hpair]
        · next hpair => exact .inl ⟨hseed, hpair, (Except.error.inj h).symm⟩
  · rintro (⟨hseed, hpair, rfl⟩ | ⟨seed, half, rfl, hseed, hhalf, hne, rfl⟩)
    · rw [seedOf, if_neg hseed, if_neg hpair]
    · have hlength : (seed ++ half).length = 64 := by rw [List.length_append, hseed, hhalf]
      rw [seedOf, if_neg (by rw [hlength]; decide), if_pos hlength, List.take_left' hseed,
        List.drop_left' hseed, if_neg hne.symm]

def readPrivate (text : String) : Except SigningKey.Error Bytes :=
  decodeHalf "private" text >>= seedOf

theorem readPrivate_eq_ok_iff {text : String} {seed : Bytes} :
    readPrivate text = .ok seed ↔ Holds text seed := by
  simp only [readPrivate, Except.bind_eq_ok, decodeHalf_eq_ok_iff, seedOf_eq_ok]
  constructor
  · rintro ⟨key, h, hlength, rfl | rfl⟩
    · exact .alone hlength h
    · exact .pair hlength h
  · rintro (⟨hlength, h⟩ | ⟨hlength, h⟩)
    · exact ⟨_, h, hlength, .inl rfl⟩
    · exact ⟨_, h, hlength, .inr rfl⟩

theorem readPrivate_eq_error_iff {text : String} {e : SigningKey.Error} :
    readPrivate text = .error e ↔ PrivateFault text e := by
  simp only [readPrivate, Except.bind_eq_error, decodeHalf_eq_ok_iff, decodeHalf_eq_error_iff,
    seedOf_eq_error_iff]
  constructor
  · rintro (⟨rfl, h⟩ | ⟨key, h, ⟨hseed, hpair, rfl⟩ | ⟨seed, half, rfl, hseed, hhalf, hne, rfl⟩⟩)
    · exact .encoding h
    · exact .length h hseed hpair
    · exact .inconsistent h hseed hhalf hne
  · intro h
    cases h with
    | encoding h => exact .inl ⟨rfl, h⟩
    | length h hseed hpair => exact .inr ⟨_, h, .inl ⟨hseed, hpair, rfl⟩⟩
    | inconsistent h hseed hhalf hne =>
        exact .inr ⟨_, h, .inr ⟨_, _, rfl, hseed, hhalf, hne, rfl⟩⟩

theorem checkPublic_eq_ok_iff {seed : Bytes} {text : String} :
    checkPublic seed text = .ok () ↔ Surrounds text (Ed25519.publicKey seed) := by
  have hpublic : (Ed25519.publicKey seed).length = 32 := Ed25519.length_publicKey seed
  rw [checkPublic, Except.bind_eq_ok]
  simp only [decodeHalf_eq_ok_iff]
  constructor
  · rintro ⟨key, h, hchecked⟩
    split at hchecked
    · exact nomatch hchecked
    · split at hchecked
      · exact nomatch hchecked
      · next hsame => rwa [← Decidable.not_not.1 hsame]
  · intro h
    refine ⟨_, h, ?_⟩
    rw [if_neg (not_not_intro hpublic), if_neg (not_not_intro rfl)]

theorem checkPublic_eq_error_iff {seed : Bytes} {text : String} {e : SigningKey.Error} :
    checkPublic seed text = .error e ↔ PublicFault seed text e := by
  rw [checkPublic, Except.bind_eq_error]
  simp only [decodeHalf_eq_ok_iff, decodeHalf_eq_error_iff]
  constructor
  · rintro (⟨rfl, h⟩ | ⟨key, h, hchecked⟩)
    · exact .encoding h
    · split at hchecked
      · next hlength =>
          obtain rfl := Except.error.inj hchecked
          exact .length h hlength
      · next hlength =>
          split at hchecked
          · next hne =>
              obtain rfl := Except.error.inj hchecked
              exact .mismatch h (Decidable.not_not.1 hlength) hne
          · exact nomatch hchecked
  · intro h
    cases h with
    | encoding h => exact .inl ⟨rfl, h⟩
    | length h hlength => exact .inr ⟨_, h, if_pos hlength⟩
    | mismatch h hlength hne =>
        refine .inr ⟨_, h, ?_⟩
        rw [if_neg (not_not_intro hlength), if_pos hne]

def checkBeside (seed : Bytes) (publicText : Option String) : Except SigningKey.Error Unit :=
  match publicText.filter fun s => !isBlankText s with
  | some text => checkPublic seed text
  | none => .ok ()

theorem checkBeside_eq_ok_iff {seed : Bytes} {publicText : Option String} :
    checkBeside seed publicText = .ok () ↔ Agrees seed publicText := by
  rw [checkBeside]
  split
  · next text htext =>
      obtain ⟨rfl, hvisible⟩ := filter_visible_eq_some_iff.1 htext
      rw [checkPublic_eq_ok_iff]
      constructor
      · rintro h text hsome -
        rwa [← Option.some.inj hsome]
      · intro h
        exact h text rfl hvisible
  · next hnone =>
      refine ⟨fun _ text hsome hvisible => ?_, fun _ => rfl⟩
      rw [filter_visible_eq_some_iff.2 ⟨hsome, hvisible⟩] at hnone
      exact nomatch hnone

theorem checkBeside_eq_error_iff {seed : Bytes} {publicText : Option String} {e : SigningKey.Error} :
    checkBeside seed publicText = .error e ↔
      ∃ beside, publicText = some beside ∧ IsVisible beside ∧ PublicFault seed beside e := by
  rw [checkBeside]
  split
  · next text htext =>
      obtain ⟨rfl, hvisible⟩ := filter_visible_eq_some_iff.1 htext
      rw [checkPublic_eq_error_iff]
      constructor
      · intro h
        exact ⟨text, rfl, hvisible, h⟩
      · rintro ⟨beside, hsome, -, h⟩
        rwa [Option.some.inj hsome]
  · next hnone =>
      constructor
      · intro h
        exact nomatch h
      · rintro ⟨beside, hsome, hvisible, -⟩
        rw [filter_visible_eq_some_iff.2 ⟨hsome, hvisible⟩] at hnone
        exact nomatch hnone

theorem ofPrivate_eq (text : String) (publicText : Option String) :
    ofPrivate text publicText =
      readPrivate text >>= fun seed => checkBeside seed publicText >>= fun _ => .ok ⟨seed, false⟩ := by
  rw [ofPrivate, readPrivate]
  cases decodeHalf "private" text with
  | error e => rfl
  | ok key =>
      rw [Except.ok_bind, Except.ok_bind]
      cases seedOf key with
      | error e => rfl
      | ok seed =>
          simp only [checkBeside]
          cases publicText.filter fun s => !isBlankText s <;> rfl

theorem resolves_ofPrivate (text : String) (publicText : Option String) :
    Resolves text publicText (ofPrivate text publicText) := by
  rw [ofPrivate_eq]
  cases hseed : readPrivate text with
  | error e => exact .badPrivate (readPrivate_eq_error_iff.1 hseed)
  | ok seed =>
      have hholds := readPrivate_eq_ok_iff.1 hseed
      rw [Except.ok_bind]
      cases hbeside : checkBeside seed publicText with
      | error e =>
          obtain ⟨beside, hsome, hvisible, h⟩ := checkBeside_eq_error_iff.1 hbeside
          exact .badPublic hholds hsome hvisible h
      | ok u => exact .resolved hholds (checkBeside_eq_ok_iff.1 hbeside)

theorem ofPrivate_eq_iff {text : String} {publicText : Option String}
    {r : Except SigningKey.Error SigningKey} :
    ofPrivate text publicText = r ↔ Resolves text publicText r := by
  constructor
  · rintro rfl
    exact resolves_ofPrivate text publicText
  · intro h
    rw [ofPrivate_eq]
    cases h with
    | badPrivate h =>
        rw [readPrivate_eq_error_iff.2 h, Except.error_bind]
    | badPublic hseed hbeside hvisible h =>
        rw [readPrivate_eq_ok_iff.2 hseed, Except.ok_bind,
          checkBeside_eq_error_iff.2 ⟨_, hbeside, hvisible, h⟩, Except.error_bind]
    | resolved hseed h =>
        rw [readPrivate_eq_ok_iff.2 hseed, Except.ok_bind, checkBeside_eq_ok_iff.2 h, Except.ok_bind]

theorem resolve_of_visible {m : ConfiguredKeys} {text : String} (htext : m.privateKey = some text)
    (hvisible : IsVisible text) (fresh : Bytes) : resolve m fresh = ofPrivate text m.publicKey := by
  rw [resolve, filter_visible_eq_some_iff.2 ⟨htext, hvisible⟩]

theorem Holds.isVisible {text : String} {seed : Bytes} (h : Holds text seed) : IsVisible text := by
  cases h with
  | alone hlength h =>
      apply isVisible_of_surrounds h
      rintro rfl
      exact nomatch hlength
  | pair hlength h =>
      apply isVisible_of_surrounds h
      intro hnil
      rw [(List.append_eq_nil_iff.1 hnil).1] at hlength
      exact nomatch hlength

/-- A private key that is not blank decides what is resolved, whether keys may be made up or not: the
first fault of the private key, or else the first fault of a public key that is not blank either, or
else the key of the seed. However a seed is written down, the key is the same. -/
theorem resolve_exact :
    (∀ (m : ConfiguredKeys) (text : String), m.privateKey = some text → IsVisible text →
      ∀ fresh r, resolve m fresh = r ↔ Resolves text m.publicKey r) ∧
    ∀ seed : Bytes, ∃ k : SigningKey, k.ephemeral = false ∧
      k.publicKey = Ed25519.publicKey seed ∧
      (∀ message, k.sign message = Ed25519.sign seed message) ∧
      ∀ (m : ConfiguredKeys) (text : String), m.privateKey = some text → Holds text seed →
        Agrees seed m.publicKey → ∀ fresh, resolve m fresh = .ok k := by
  refine ⟨?_, fun seed => ⟨⟨seed, false⟩, rfl, rfl, fun _ => rfl, ?_⟩⟩
  · intro m text htext hvisible fresh r
    rw [resolve_of_visible htext hvisible, ofPrivate_eq_iff]
  · intro m text htext hseed hagrees fresh
    rw [resolve_of_visible htext hseed.isVisible, ofPrivate_eq_iff]
    exact .resolved hseed hagrees

theorem resolve_exact_forms :
    Resolves "***" (some "?") (.error (.encoding "private")) ∧
      ∃ k, ∀ fresh,
        resolve ⟨some (Text.base64 (List.replicate 32 42)), none, true⟩ fresh = .ok k ∧
          resolve ⟨some (" " ++ Text.base64 (List.replicate 32 42 ++
            Ed25519.publicKey (List.replicate 32 42)) ++ "\n"), some "\t", false⟩ fresh = .ok k := by
  obtain ⟨hexact, hseed⟩ := resolve_exact
  refine ⟨?_, ?_⟩
  · have hvisible : IsVisible "***" := ⟨'*', by decide, by decide⟩
    exact (hexact ⟨some "***", some "?", true⟩ "***" rfl hvisible [] _).1 (by decide +kernel)
  · obtain ⟨k, -, -, -, hk⟩ := hseed (List.replicate 32 42)
    refine ⟨k, fun fresh => ⟨?_, ?_⟩⟩
    · refine hk _ _ rfl (.alone rfl (Text.surrounds_base64 _)) ?_ fresh
      intro beside hnone
      exact nomatch hnone
    · have hfront : " ".toList.all Text.isBlank = true := by decide
      have hback : "\n".toList.all Text.isBlank = true := by decide
      refine hk _ _ rfl (.pair rfl ⟨" ", "\n", rfl, List.all_eq_true.1 hfront,
        List.all_eq_true.1 hback⟩) ?_ fresh
      rintro beside hblank ⟨c, hc, hvisible⟩
      obtain rfl := Option.some.inj hblank
      have hblanks : "\t".toList.all Text.isBlank = true := by decide
      exact absurd (hvisible.symm.trans (List.all_eq_true.1 hblanks c hc)) Bool.false_ne_true

end SigningKey

end RelayGate
