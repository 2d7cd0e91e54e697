import RelayGate.Proofs.Pack.Canonical

namespace RelayGate

theorem Bytes.length_littleEndian (k n : Nat) : (littleEndian k n).length = k := by
  induction k generalizing n with
  | zero => rfl
  | succ k ih => rw [littleEndian, List.length_cons, ih]

namespace Ed25519

theorem Point.length_encode (p : Point) : p.encode.length = 32 := Bytes.length_littleEndian _ _

theorem length_publicKey (seed : Bytes) : (publicKey seed).length = 32 := Point.length_encode _

theorem length_sign (seed message : Bytes) : (sign seed message).length = 64 := by
  rw [sign, List.length_append, Point.length_encode, Bytes.length_littleEndian]

end Ed25519

open Ed25519 (VerifyingKey)

structure Verification where
  key? : Bytes → Option VerifyingKey
  accepts : VerifyingKey → Bytes → Bytes → Bool

namespace Verification

def strict : Verification := ⟨VerifyingKey.ofBytes?, VerifyingKey.verify⟩

/-- What a signer relies on: the public key of the seed is read as the key of the seed, and the
signatures made with the seed are accepted for it. -/
structure Honours (V : Verification) (seed : Bytes) : Prop where
  reads : ∃ key, V.key? (Ed25519.publicKey seed) = some key ∧ ∀ message signature,
    V.accepts key message signature = V.accepts (.ofSeed seed) message signature
  accepts : ∀ message, V.accepts (.ofSeed seed) message (Ed25519.sign seed message) = true

/-- What is taken for granted of the curve wherever packs are said to be authentic as they are checked:
the public key of the seed is read back, and the strict check accepts what is signed with the seed. -/
structure HonoursStrictly (seed : Bytes) : Prop where
  reads : ∃ key, VerifyingKey.ofBytes? (Ed25519.publicKey seed) = some key ∧
    ∀ message signature, key.verify message signature =
      (VerifyingKey.ofSeed seed).verify message signature
  accepts : ∀ message,
    (VerifyingKey.ofSeed seed).verify message (Ed25519.sign seed message) = true

theorem honours_strict_iff {seed : Bytes} : strict.Honours seed ↔ HonoursStrictly seed := by
  have hkey : strict.key? = VerifyingKey.ofBytes? := rfl
  have hverify : strict.accepts = VerifyingKey.verify := rfl
  constructor
  · rintro ⟨hreads, haccepts⟩
    rw [hkey, hverify] at hreads
    rw [hverify] at haccepts
    exact ⟨hreads, haccepts⟩
  · rintro ⟨hreads, haccepts⟩
    rw [← hkey, ← hverify] at hreads
    rw [← hverify] at haccepts
    exact ⟨hreads, haccepts⟩

/-- Strict verification that knows the signatures of one seed beforehand. -/
def knowing (seed : Bytes) : Verification where
  key? bs := if bs = Ed25519.publicKey seed then some (.ofSeed seed) else VerifyingKey.ofBytes? bs
  accepts key message signature :=
    key = .ofSeed seed ∧ signature = Ed25519.sign seed message ∨ key.verify message signature

theorem honours_knowing (seed : Bytes) : (knowing seed).Honours seed where
  reads := ⟨.ofSeed seed, if_pos rfl, fun _ _ => rfl⟩
  accepts _ := decide_eq_true (.inl ⟨rfl, rfl⟩)

end Verification

namespace Pack

def isAuthenticUnder (V : Verification) (p : Pack) : Bool :=
  match V.key? p.publicKey with
  | some key => V.accepts key p.canonical p.signature
  | none => false

def isAuthenticForUnder (V : Verification) (p : Pack) (pinned : VerifyingKey) : Bool :=
  p.publicKey.length == 32 && p.publicKey == pinned.bytes && V.accepts pinned p.canonical p.signature

theorem isAuthenticUnder_strict (p : Pack) : p.isAuthenticUnder .strict = p.isAuthentic := rfl

theorem isAuthenticForUnder_strict (p : Pack) (pinned : VerifyingKey) :
    p.isAuthenticForUnder .strict pinned = p.isAuthenticFor pinned := rfl

theorem canonical_sign (p : Pack) (k : SigningKey) :
    (p.sign k).canonical = { p with publicKey := k.publicKey }.canonical :=
  canonical_congr rfl rfl rfl rfl rfl rfl rfl

theorem signature_sign (p : Pack) (k : SigningKey) :
    (p.sign k).signature = k.sign (p.sign k).canonical := by
  rw [canonical_sign]
  rfl

theorem sign_withStale (p : Pack) (k : SigningKey) (signature publicKey : Bytes) :
    { p with signature := signature, publicKey := publicKey }.sign k = p.sign k := by
  have hc : { p with signature := signature, publicKey := k.publicKey }.canonical =
      { p with publicKey := k.publicKey }.canonical :=
    canonical_congr rfl rfl rfl rfl rfl rfl rfl
  simp only [sign, hc]

theorem isAuthenticUnder_sign {V : Verification} {k : SigningKey} (hV : V.Honours k.seed)
    (p : Pack) : (p.sign k).isAuthenticUnder V = true := by
  obtain ⟨key, hread, hsame⟩ := hV.reads
  change V.key? (p.sign k).publicKey = some key at hread
  simp only [isAuthenticUnder, hread]
  rw [hsame, signature_sign]
  exact hV.accepts _

theorem isAuthenticForUnder_sign {V : Verification} {k : SigningKey} (hV : V.Honours k.seed)
    (p : Pack) : (p.sign k).isAuthenticForUnder V k.verifyingKey = true := by
  have hlength : (p.sign k).publicKey.length = 32 := Ed25519.length_publicKey k.seed
  have hkey : ((p.sign k).publicKey == k.verifyingKey.bytes) = true := beq_self_eq_true _
  have haccepts : V.accepts k.verifyingKey (p.sign k).canonical (p.sign k).signature = true := by
    rw [signature_sign]
    exact hV.accepts _
  rw [isAuthenticForUnder, hlength, hkey, haccepts]
  rfl

theorem isAuthenticForUnder_of_ne {V : Verification} {p : Pack} {pinned : VerifyingKey}
    (h : pinned.bytes ≠ p.publicKey) : p.isAuthenticForUnder V pinned = false := by
  have hkey : (p.publicKey == pinned.bytes) = false := by simpa using h.symm
  rw [isAuthenticForUnder, hkey, Bool.and_false, Bool.false_and]

theorem isAuthentic_sign {k : SigningKey} (h : Verification.HonoursStrictly k.seed) (p : Pack) :
    (p.sign k).isAuthentic = true ∧ (p.sign k).isAuthenticFor k.verifyingKey = true := by
  have hstrict := Verification.honours_strict_iff.2 h
  rw [← isAuthenticUnder_strict, ← isAuthenticForUnder_strict]
  exact ⟨isAuthenticUnder_sign hstrict p, isAuthenticForUnder_sign hstrict p⟩

/-- Signing puts in the signer's public key and a signature, leaves the rest of the pack as it is,
and depends on the rest alone. Where the signatures of the signer are honoured, the signed pack is
authentic, for the signer's key and for no other. The strict checks are those that run. -/
theorem sign_authentic {V : Verification} {k : SigningKey} (hV : V.Honours k.seed) (p : Pack) :
    p.sign k = { p with
      publicKey := k.verifyingKey.bytes
      signature := k.sign { p with publicKey := k.verifyingKey.bytes }.canonical } ∧
    (p.sign k).publicKey.length = 32 ∧ (p.sign k).signature.length = 64 ∧
    (p.sign k).isAuthenticUnder V = true ∧
    (p.sign k).isAuthenticForUnder V k.verifyingKey = true ∧
    (∀ pinned, pinned.bytes ≠ k.verifyingKey.bytes →
      (p.sign k).isAuthenticForUnder V pinned = false ∧ (p.sign k).isAuthenticFor pinned = false) ∧
    (∀ signature publicKey,
      { p with signature := signature, publicKey := publicKey }.sign k = p.sign k) ∧
    (p.sign k).sign k = p.sign k ∧
    (∀ q : Pack, q.isAuthenticUnder .strict = q.isAuthentic ∧
      ∀ pinned, q.isAuthenticForUnder .strict pinned = q.isAuthenticFor pinned) := by
  refine ⟨rfl, Ed25519.length_publicKey k.seed, Ed25519.length_sign k.seed _,
    isAuthenticUnder_sign hV p, isAuthenticForUnder_sign hV p, ?_, sign_withStale p k, ?_,
    fun q => ⟨isAuthenticUnder_strict q, isAuthenticForUnder_strict q⟩⟩
  · intro pinned hne
    have hne : pinned.bytes ≠ (p.sign k).publicKey := hne
    rw [← isAuthenticForUnder_strict]
    exact ⟨isAuthenticForUnder_of_ne hne, isAuthenticForUnder_of_ne hne⟩
  · exact sign_withStale p k (p.sign k).signature (p.sign k).publicKey

def hollow : Pack := ⟨"", 0, [], [], ⟨[], 0, false⟩, .empty, [1], [2]⟩

theorem sign_authentic_hollow :
    (Verification.knowing [7]).Honours [7] ∧
      (hollow.sign ⟨[7], false⟩).isAuthenticUnder (.knowing [7]) = true ∧
      (hollow.sign ⟨[7], false⟩).isAuthentic = true ∧
      (hollow.sign ⟨[7], false⟩).isAuthenticFor ⟨[2], .base⟩ = false := by
  have hV : (Verification.knowing [7]).Honours [7] := Verification.honours_knowing [7]
  have hne : [2] ≠ (SigningKey.mk [7] false).verifyingKey.bytes := by decide +kernel
  obtain ⟨-, -, -, hauthentic, -, hother, -, -, -⟩ :=
    sign_authentic (k := ⟨[7], false⟩) hV hollow
  exact ⟨hV, hauthentic, by decide +kernel, (hother ⟨[2], .base⟩ hne).2⟩

end Pack

end RelayGate
