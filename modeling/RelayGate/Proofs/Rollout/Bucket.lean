import Mathlib.Algebra.BigOperators.Fin
import Mathlib.Data.Int.ModEq
import Mathlib.Tactic.Ring
import RelayGate.Rollout

namespace RelayGate.Rollout

/-- The polynomial in 31 over the code points, as a whole number of any size. -/
def codeSum (s : List Char) : ℤ := ∑ i : Fin s.length, (s[i].toNat : ℤ) * 31 ^ (s.length - 1 - i)

theorem codeSum_cons (c : Char) (s : List Char) :
    codeSum (c :: s) = (c.toNat : ℤ) * 31 ^ s.length + codeSum s := by
  have hsplit := Fin.sum_univ_succ fun i : Fin (s.length + 1) =>
    ((c :: s)[i].toNat : ℤ) * 31 ^ (s.length + 1 - 1 - i)
  refine hsplit.trans (congrArg ((c.toNat : ℤ) * 31 ^ s.length + ·) ?_)
  apply Finset.sum_congr rfl
  intro i _
  have hexponent : s.length + 1 - 1 - (i.val + 1) = s.length - 1 - i.val := by omega
  rw [Fin.val_succ, hexponent]
  rfl

theorem toInt_step (h : Int64) (c : Char) :
    (h * 31 + Int64.ofNat c.toNat).toInt ≡ h.toInt * 31 + c.toNat [ZMOD 2 ^ 64] := by
  have hfactor : (31 : Int64).toInt = 31 := by decide
  have hcode : ((c.toNat : ℤ).bmod (2 ^ 64)) ≡ c.toNat [ZMOD 2 ^ 64] := Int.bmod_emod
  have hproduct : (h * 31).toInt ≡ h.toInt * 31 [ZMOD 2 ^ 64] := by
    rw [Int64.toInt_mul, hfactor]
    exact Int.bmod_emod
  rw [Int64.toInt_add, Int64.toInt_ofNat']
  exact Int.bmod_emod.trans (hproduct.add hcode)

theorem toInt_foldl (s : List Char) (h : Int64) :
    (s.foldl (fun h c => h * 31 + Int64.ofNat c.toNat) h).toInt ≡
      h.toInt * 31 ^ s.length + codeSum s [ZMOD 2 ^ 64] := by
  induction s generalizing h with
  | nil => simp [codeSum]
  | cons c s ih =>
      have hstep := ((toInt_step h c).mul_right (31 ^ s.length)).add_right (codeSum s)
      have hshift : h.toInt * 31 ^ (c :: s).length + codeSum (c :: s) =
          (h.toInt * 31 + c.toNat) * 31 ^ s.length + codeSum s := by
        rw [codeSum_cons, List.length_cons]
        ring
      rw [hshift]
      exact (ih _).trans hstep

theorem toInt_hash (s : List Char) : (hash s).toInt ≡ codeSum s [ZMOD 2 ^ 64] := by
  have hfold := toInt_foldl s 0
  rwa [Int64.toInt_zero, zero_mul, zero_add] at hfold

theorem toInt_hash_append (s t : List Char) :
    (hash (s ++ t)).toInt ≡ (hash s).toInt * 31 ^ t.length + (hash t).toInt [ZMOD 2 ^ 64] := by
  rw [hash, List.foldl_append]
  exact (toInt_foldl t (hash s)).trans ((toInt_hash t).symm.add_left _)

theorem toInt_eq_iff (h : Int64) (n : ℤ) :
    h.toInt = n ↔ -2 ^ 63 ≤ n ∧ n < 2 ^ 63 ∧ n ≡ h.toInt [ZMOD 2 ^ 64] := by
  have hlow : -2 ^ 63 ≤ h.toInt := h.le_toInt
  have hhigh : h.toInt < 2 ^ 63 := h.toInt_lt
  constructor
  · rintro rfl
    exact ⟨hlow, hhigh, rfl⟩
  · rintro ⟨hn, hn', hcongr⟩
    -- The range has one number of each class of rests.
    rw [Int.ModEq] at hcongr
    omega

theorem toNat_magnitude (h : Int64) : (magnitude h).toNat = h.toInt.natAbs := by
  change h.toBitVec.abs.toNat = h.toBitVec.toInt.natAbs
  rw [BitVec.toNat_abs, BitVec.toInt_eq_msb_cond]
  have hword : h.toBitVec.toNat < 2 ^ 64 := h.toBitVec.isLt
  split <;> omega

theorem byte?_eq_some {n : UInt64} (h : n.toNat < 256) : byte? n = some n.toUInt8 :=
  if_pos (UInt64.lt_iff_toNat_lt.2 h)

theorem toNat_rest (h : Int64) : (magnitude h % 100).toNat = h.toInt.natAbs % 100 := by
  rw [UInt64.toNat_mod, toNat_magnitude]
  rfl

theorem byte?_rest (h : Int64) :
    ∃ b, byte? (magnitude h % 100) = some b ∧ b.toNat = h.toInt.natAbs % 100 := by
  have hsmall : (magnitude h % 100).toNat < 256 := by
    rw [toNat_rest]
    omega
  refine ⟨_, byte?_eq_some hsmall, ?_⟩
  rw [UInt64.toNat_toUInt8, toNat_rest]
  omega

theorem bucket_eq (client version region : String) : bucket client version region =
    (hash (client ++ version ++ region).toList).toInt.natAbs % 100 := by
  obtain ⟨b, hb, hrest⟩ := byte?_rest (hash (client ++ version ++ region).toList)
  rw [← hrest]
  simp only [String.toList_append] at hb
  simp only [bucket, hb, Option.getD_some]

theorem bucket_lt (client version region : String) : bucket client version region < 100 := by
  rw [bucket_eq]
  exact Nat.mod_lt _ (by decide)

/-- The hash of a text is the one number of 64 bits with a sign that is congruent to the polynomial in
31 over its code points, so that the hash of two texts joined comes of the hashes of both. A bucket is
the rest of its distance from zero, taken in the whole numbers, from a division by a hundred: always
one of a hundred, and always a byte. -/
theorem hash_bucket_exact :
    (∀ (s : String) (n : ℤ), (hash s.toList).toInt = n ↔
      -2 ^ 63 ≤ n ∧ n < 2 ^ 63 ∧ n ≡ codeSum s.toList [ZMOD 2 ^ 64]) ∧
    (∀ a b : String, (hash (a ++ b).toList).toInt ≡
      (hash a.toList).toInt * 31 ^ b.length + (hash b.toList).toInt [ZMOD 2 ^ 64]) ∧
    ∀ client version region : String,
      let h := hash (client ++ version ++ region).toList
      bucket client version region = h.toInt.natAbs % 100 ∧
      bucket client version region < 100 ∧
      ∃ b, byte? (magnitude h % 100) = some b ∧ bucket client version region = b.toNat := by
  refine ⟨?_, ?_, ?_⟩
  · intro s n
    have hsum := toInt_hash s.toList
    rw [toInt_eq_iff]
    constructor
    · rintro ⟨hlow, hhigh, hcongr⟩
      exact ⟨hlow, hhigh, hcongr.trans hsum⟩
    · rintro ⟨hlow, hhigh, hcongr⟩
      exact ⟨hlow, hhigh, hcongr.trans hsum.symm⟩
  · intro a b
    rw [String.toList_append, ← String.length_toList]
    exact toInt_hash_append a.toList b.toList
  · intro client version region h
    obtain ⟨b, hb, hrest⟩ := byte?_rest h
    have hbucket := bucket_eq client version region
    exact ⟨hbucket, bucket_lt client version region, b, hb, hbucket.trans hrest.symm⟩

/-- The least number of 64 bits is the hash of some texts. -/
example : (hash "fvcolndlvucqxvfu".toList).toInt = -2 ^ 63 ∧
    bucket "fvcolndlvucqxvfu" "" "" = 2 ^ 63 % 100 := by decide +kernel

end RelayGate.Rollout
