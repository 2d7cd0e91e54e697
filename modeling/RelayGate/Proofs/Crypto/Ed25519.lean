import Mathlib.Data.ZMod.Basic
import Mathlib.Tactic.LinearCombination
import Mathlib.Tactic.Ring
import RelayGate.Crypto.Ed25519

namespace RelayGate.Ed25519

/-- A point of the curve, in affine coordinates. -/
structure Point.IsOnCurve (p : Point) : Prop where
  z : p.z = 1
  t : p.t = p.x * p.y % prime
  equation : p.y * p.y ≡
    p.x * p.x + 1 + curveConstant * (p.x * p.x) * (p.y * p.y) [MOD prime]

theorem prime_pos : 0 < prime := by
  decide

theorem sub_lt (a b : Nat) : sub a b < prime := Nat.mod_lt _ prime_pos

theorem cast_sub {a b : Nat} (h : b ≤ a + prime) : (sub a b : ZMod prime) = a - b := by
  rw [sub, ZMod.natCast_mod, Nat.cast_sub h, Nat.cast_add, ZMod.natCast_self, add_zero]

theorem cast_imaginary : (imaginary : ZMod prime) * imaginary = -1 := by
  have hdvd : prime ∣ imaginary * imaginary + 1 := by decide +kernel
  have hzero := (ZMod.natCast_eq_zero_iff _ _).2 hdvd
  rw [Nat.cast_add, Nat.cast_mul, Nat.cast_one] at hzero
  exact eq_neg_of_add_eq_zero_left hzero

theorem rootOfRatio_eq_some {u v r : Nat} (hu : u < prime) (h : rootOfRatio u v = some r) :
    r < prime ∧ (v * (r * r) : ZMod prime) = u := by
  unfold rootOfRatio at h
  extract_lets v3 v7 c check at h
  have hcheck : (check : ZMod prime) = v * (c * c) := by
    simp only [check, ZMod.natCast_mod, Nat.cast_mul]
    ring
  split at h
  · next hsame =>
      obtain rfl := Option.some.inj h
      exact ⟨Nat.mod_lt _ prime_pos, by rw [← hcheck, hsame]⟩
  · split at h
    · next hopposite =>
        obtain rfl := Option.some.inj h
        refine ⟨Nat.mod_lt _ prime_pos, ?_⟩
        rw [hopposite, cast_sub (Nat.le_add_left_of_le (Nat.le_of_lt hu)), Nat.cast_zero] at hcheck
        rw [ZMod.natCast_mod, Nat.cast_mul]
        linear_combination (v * (c * c) : ZMod prime) * cast_imaginary + hcheck
    · exact nomatch h

theorem Point.isOnCurve_of_decode {bs : Bytes} {p : Point} (h : decode bs = some p) :
    bs.length = 32 ∧ p.IsOnCurve := by
  unfold decode at h
  split at h
  · exact nomatch h
  · next hlength =>
      extract_lets n y yy at h
      obtain ⟨r, hr, rfl⟩ := Option.map_eq_some_iff.1 h
      refine ⟨Decidable.not_not.1 hlength, rfl, rfl, ?_⟩
      have hyy : (yy : ZMod prime) = y * y := by
        simp only [yy, ZMod.natCast_mod, Nat.cast_mul]
      obtain ⟨hlt, hroot⟩ := rootOfRatio_eq_some (sub_lt yy 1) hr
      rw [cast_sub (Nat.le_add_left_of_le (by decide)), ZMod.natCast_mod, Nat.cast_add, Nat.cast_mul,
        Nat.cast_one, hyy] at hroot
      -- The sign that is asked for makes no difference to the square.
      have hsign : ∀ x, x = (if r % 2 = n / 2 ^ 255 then r else sub 0 r) →
          (x * x : ZMod prime) = r * r := by
        rintro x rfl
        split
        · rfl
        · rw [cast_sub (Nat.le_add_left_of_le (Nat.le_of_lt hlt))]
          ring
      rw [← ZMod.natCast_eq_natCast_iff, Point.ofAffine]
      generalize hx : (if r % 2 = n / 2 ^ 255 then r else sub 0 r) = x
      have hsquare := hsign x hx.symm
      push_cast
      linear_combination -hroot - (1 + curveConstant * (y * y) : ZMod prime) * hsquare

namespace VerifyingKey

theorem ofBytes?_eq_some_iff {bs : Bytes} {key : VerifyingKey} :
    ofBytes? bs = some key ↔ key.bytes = bs ∧ Point.decode bs = some key.point := by
  rw [ofBytes?, Option.map_eq_some_iff]
  constructor
  · rintro ⟨p, hp, rfl⟩
    exact ⟨rfl, hp⟩
  · rintro ⟨rfl, hp⟩
    exact ⟨key.point, hp, rfl⟩

structure Accepts (key : VerifyingKey) (message signature : Bytes) : Prop where
  length : signature.length = 64
  scalar : Bytes.number (signature.drop 32) < order
  keyOrder : key.point.hasSmallOrder = false
  commitment : ∃ r, Point.decode (signature.take 32) = some r ∧ r.hasSmallOrder = false
  equation : ((Point.base.scale (Bytes.number (signature.drop 32))).add
    (key.point.neg.scale (challenge (signature.take 32) key.bytes message))).encode =
      signature.take 32

theorem verify_eq_true_iff {key : VerifyingKey} {message signature : Bytes} :
    key.verify message signature = true ↔ key.Accepts message signature := by
  by_cases hlength : signature.length = 64
  · rw [verify, if_neg (not_not_intro hlength)]
    dsimp only
    cases hr : Point.decode (signature.take 32) with
    | none =>
        constructor
        · intro h
          exact absurd h Bool.false_ne_true
        · rintro ⟨-, -, -, ⟨r, hsome, -⟩, -⟩
          exact nomatch hr.symm.trans hsome
    | some r =>
        simp only [Bool.and_eq_true, decide_eq_true_eq, Bool.not_eq_true', beq_iff_eq]
        constructor
        · rintro ⟨⟨⟨hscalar, hcommitment⟩, hkey⟩, hequation⟩
          exact ⟨hlength, hscalar, hkey, ⟨r, hr, hcommitment⟩, hequation⟩
        · rintro ⟨-, hscalar, hkey, ⟨r', hr', hcommitment⟩, hequation⟩
          obtain rfl := Option.some.inj (hr.symm.trans hr')
          exact ⟨⟨⟨hscalar, hcommitment⟩, hkey⟩, hequation⟩
  · rw [verify, if_pos hlength]
    constructor
    · intro h
      exact absurd h Bool.false_ne_true
    · intro h
      exact absurd h.length hlength

end VerifyingKey

end RelayGate.Ed25519
