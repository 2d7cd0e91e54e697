import RelayGate.Proofs.Crypto.Ed25519
import RelayGate.Proofs.Pack.Signature

namespace RelayGate.Pack

open Ed25519 (VerifyingKey)

/-- The public key of the pack is this key, and the key accepts the signature of the pack. -/
structure IsSealedBy (p : Pack) (key : VerifyingKey) : Prop where
  publicKey_length : p.publicKey.length = 32
  publicKey_eq : p.publicKey = key.bytes
  decoded : Ed25519.Point.decode p.publicKey = some key.point
  onCurve : key.point.IsOnCurve
  signature_length : p.signature.length = 64
  accepts : key.Accepts p.canonical p.signature

variable {p : Pack} {pinned : VerifyingKey} {bytes : Bytes}

theorem isSealedBy_iff {key : VerifyingKey} : p.IsSealedBy key ↔
    VerifyingKey.ofBytes? p.publicKey = some key ∧ key.Accepts p.canonical p.signature := by
  constructor
  · intro h
    exact ⟨VerifyingKey.ofBytes?_eq_some_iff.2 ⟨h.publicKey_eq.symm, h.decoded⟩, h.accepts⟩
  · rintro ⟨hkey, haccepts⟩
    obtain ⟨hbytes, hdecode⟩ := VerifyingKey.ofBytes?_eq_some_iff.1 hkey
    obtain ⟨hlength, hcurve⟩ := Ed25519.Point.isOnCurve_of_decode hdecode
    exact ⟨hlength, hbytes.symm, hdecode, hcurve, haccepts.length, haccepts⟩

theorem isAuthentic_iff : p.isAuthentic = true ↔ ∃ key, p.IsSealedBy key := by
  simp only [isSealedBy_iff, isAuthentic]
  cases hkey : VerifyingKey.ofBytes? p.publicKey with
  | none =>
      constructor
      · intro h
        exact absurd h Bool.false_ne_true
      · rintro ⟨key, hsome, -⟩
        exact nomatch hsome
  | some key =>
      dsimp only
      rw [isSignedBy, VerifyingKey.verify_eq_true_iff]
      constructor
      · intro h
        exact ⟨key, rfl, h⟩
      · rintro ⟨key', hsome, h⟩
        rwa [Option.some.inj hsome]

theorem isAuthenticFor_iff (hpin : VerifyingKey.ofBytes? bytes = some pinned) :
    p.isAuthenticFor pinned = true ↔ p.publicKey = bytes ∧ p.IsSealedBy pinned := by
  obtain ⟨rfl, hdecode⟩ := VerifyingKey.ofBytes?_eq_some_iff.1 hpin
  obtain ⟨hlength, -⟩ := Ed25519.Point.isOnCurve_of_decode hdecode
  rw [isAuthenticFor, isSignedBy, Bool.and_eq_true, Bool.and_eq_true, beq_iff_eq, beq_iff_eq,
    VerifyingKey.verify_eq_true_iff]
  constructor
  · rintro ⟨⟨-, hsame⟩, haccepts⟩
    exact ⟨hsame, isSealedBy_iff.2 ⟨by rw [hsame, hpin], haccepts⟩⟩
  · rintro ⟨hsame, hsealed⟩
    exact ⟨⟨hsealed.publicKey_length, hsame⟩, hsealed.accepts⟩

/-- A pack passes the check against a pinned key just when it carries the thirty-two bytes that the
key was read from and passes the check against its own key, and so passes no pin but one. It passes
the check against its own key just when these bytes stand for a point of the curve, for which its
signature of sixty-four bytes meets every condition of strict verification. -/
theorem pins_agree (p : Pack) :
    (∀ bytes pinned, VerifyingKey.ofBytes? bytes = some pinned →
      (p.isAuthenticFor pinned = true ↔ p.publicKey = bytes ∧ p.isAuthentic = true)) ∧
    (p.isAuthentic = true ↔ ∃ key, p.IsSealedBy key) ∧
    ∀ bytes pinned bytes' pinned', VerifyingKey.ofBytes? bytes = some pinned →
      VerifyingKey.ofBytes? bytes' = some pinned' → p.isAuthenticFor pinned = true →
        p.isAuthenticFor pinned' = true → bytes = bytes' ∧ pinned = pinned' := by
  refine ⟨?_, isAuthentic_iff, ?_⟩
  · intro bytes pinned hpin
    rw [isAuthenticFor_iff hpin, isAuthentic_iff]
    refine and_congr_right ?_
    rintro rfl
    constructor
    · intro hsealed
      exact ⟨pinned, hsealed⟩
    · rintro ⟨key, hsealed⟩
      obtain rfl := Option.some.inj (hpin.symm.trans (isSealedBy_iff.1 hsealed).1)
      exact hsealed
  · intro bytes pinned bytes' pinned' hpin hpin' hpass hpass'
    obtain ⟨rfl, -⟩ := (isAuthenticFor_iff hpin).1 hpass
    obtain ⟨rfl, -⟩ := (isAuthenticFor_iff hpin').1 hpass'
    exact ⟨rfl, Option.some.inj (hpin.symm.trans hpin')⟩

def basePin : Bytes := 88 :: List.replicate 31 102

theorem pins_agree_hollow :
    ∃ pinned other, VerifyingKey.ofBytes? (Ed25519.publicKey [7]) = some pinned ∧
      VerifyingKey.ofBytes? basePin = some other ∧
      (hollow.sign ⟨[7], false⟩).isAuthenticFor pinned = true ∧
      (hollow.sign ⟨[7], false⟩).isAuthenticFor other = false := by
  have hauthentic : (hollow.sign ⟨[7], false⟩).isAuthentic = true := by decide +kernel
  have hreads : (VerifyingKey.ofBytes? basePin).isSome = true := by decide +kernel
  have hne : Ed25519.publicKey [7] ≠ basePin := by decide +kernel
  have hcarried (k : SigningKey) : (hollow.sign k).publicKey = Ed25519.publicKey k.seed := rfl
  obtain ⟨other, hother⟩ := Option.isSome_iff_exists.1 hreads
  obtain ⟨hagree, hsealed, hone⟩ := pins_agree (hollow.sign ⟨[7], false⟩)
  obtain ⟨pinned, hkey⟩ := hsealed.1 hauthentic
  have hpin := (isSealedBy_iff.1 hkey).1
  rw [hcarried] at hpin
  have hpass := (hagree _ pinned hpin).2 ⟨hcarried _, hauthentic⟩
  refine ⟨pinned, other, hpin, hother, hpass, ?_⟩
  rw [Bool.eq_false_iff]
  intro hpass'
  exact hne (hone _ pinned _ other hpin hother hpass hpass').1

end RelayGate.Pack
