import RelayGate.Text.Base64

namespace RelayGate.Text.Base64

theorem value?_symbol : ∀ n, n < 64 → value? standard (symbol standard n) = some n := by
  decide

theorem symbol_ne_pad : ∀ n, n < 64 → symbol standard n ≠ '=' := by
  decide

theorem ofNat_eq {n : Nat} {b : UInt8} (h : n = b.toNat) : UInt8.ofNat n = b := by
  rw [h, UInt8.ofNat_toNat]

theorem decode_one (a : UInt8) : decode (encode [a]) = some [a] := by
  have ha := a.toNat_lt
  simp only [encode, encodeWith, List.cons_append, List.nil_append, decode,
    value?_symbol (a.toNat / 4) (by omega), value?_symbol (a.toNat % 4 * 16) (by omega),
    Option.bind_eq_bind, Option.bind_some]
  rw [if_pos (by omega), ofNat_eq (b := a) (by omega)]
  rfl

theorem decode_two (a b : UInt8) : decode (encode [a, b]) = some [a, b] := by
  have ha := a.toNat_lt
  have hb := b.toNat_lt
  have hpad := symbol_ne_pad (b.toNat % 16 * 4) (by omega)
  simp only [encode, encodeWith, List.cons_append, List.nil_append, decode,
    value?_symbol (a.toNat / 4) (by omega),
    value?_symbol (a.toNat % 4 * 16 + b.toNat / 16) (by omega),
    value?_symbol (b.toNat % 16 * 4) (by omega), Option.bind_eq_bind, Option.bind_some]
  rw [if_pos (by omega), ofNat_eq (b := a) (by omega), ofNat_eq (b := b) (by omega)]
  rfl

theorem decode_group (a b c : UInt8) (r : Bytes) :
    decode (encode (a :: b :: c :: r)) = (decode (encode r)).map fun bs => a :: b :: c :: bs := by
  have ha := a.toNat_lt
  have hb := b.toNat_lt
  have hc := c.toNat_lt
  have hpad := symbol_ne_pad (c.toNat % 64) (by omega)
  simp only [encode, encodeWith]
  rw [decode]
  · simp only [value?_symbol (a.toNat / 4) (by omega),
      value?_symbol (a.toNat % 4 * 16 + b.toNat / 16) (by omega),
      value?_symbol (b.toNat % 16 * 4 + c.toNat / 64) (by omega),
      value?_symbol (c.toNat % 64) (by omega), Option.bind_eq_bind, Option.bind_some]
    rw [ofNat_eq (b := a) (by omega), ofNat_eq (b := b) (by omega), ofNat_eq (b := c) (by omega)]
    cases decode (encodeWith standard ['='] r) <;> rfl
  all_goals simp [hpad]

theorem decode_encode (bs : Bytes) : decode (encode bs) = some bs := by
  induction bs using encodeWith.induct with
  | case1 => rfl
  | case2 a => exact decode_one a
  | case3 a b => exact decode_two a b
  | case4 a b c r ih => rw [decode_group, ih, Option.map_some]

theorem value?_eq_some {c : Char} {n : Nat} (h : value? standard c = some n) :
    n < 64 ∧ symbol standard n = c := by
  have hc : Char.ofNat c.toNat = c := Char.ofNat_toNat c
  unfold value? at h
  split at h
  · next hrange =>
      have hlow : 65 ≤ c.toNat := hrange.1
      have hhigh : c.toNat ≤ 90 := hrange.2
      obtain rfl := Option.some.inj h
      refine ⟨by omega, ?_⟩
      rw [symbol, if_pos (by omega), Nat.add_sub_cancel' hlow, hc]
  · split at h
    · next hrange =>
        have hlow : 97 ≤ c.toNat := hrange.1
        have hhigh : c.toNat ≤ 122 := hrange.2
        obtain rfl := Option.some.inj h
        refine ⟨by omega, ?_⟩
        rw [symbol, if_neg (by omega), if_pos (by omega), Nat.add_sub_cancel' (by omega), hc]
    · split at h
      · next hrange =>
          have hlow : 48 ≤ c.toNat := hrange.1
          have hhigh : c.toNat ≤ 57 := hrange.2
          obtain rfl := Option.some.inj h
          refine ⟨by omega, ?_⟩
          rw [symbol, if_neg (by omega), if_neg (by omega), if_pos (by omega), Nat.add_sub_cancel,
            hc]
      · split at h
        · next hplus =>
            obtain rfl := Option.some.inj h
            exact ⟨by omega, hplus.symm⟩
        · split at h
          · next hslash =>
              obtain rfl := Option.some.inj h
              exact ⟨by omega, hslash.symm⟩
          · exact nomatch h

section Groups

variable {x y z w : Nat}

theorem toNat_first (hx : x < 64) (hy : y < 64) :
    (UInt8.ofNat (x * 4 + y / 16)).toNat = x * 4 + y / 16 :=
  UInt8.toNat_ofNat_of_lt' (show _ < 256 by omega)

theorem toNat_second (hz : z < 64) (y : Nat) :
    (UInt8.ofNat (y % 16 * 16 + z / 4)).toNat = y % 16 * 16 + z / 4 :=
  UInt8.toNat_ofNat_of_lt' (show _ < 256 by omega)

theorem toNat_third (hw : w < 64) (z : Nat) :
    (UInt8.ofNat (z % 4 * 64 + w)).toNat = z % 4 * 64 + w :=
  UInt8.toNat_ofNat_of_lt' (show _ < 256 by omega)

theorem encode_one (hx : x < 64) (hy : y < 64) (hunused : y % 16 = 0) :
    encode [UInt8.ofNat (x * 4 + y / 16)] = [symbol standard x, symbol standard y, '=', '='] := by
  rw [encode, encodeWith, toNat_first hx hy, show (x * 4 + y / 16) / 4 = x by omega,
    show (x * 4 + y / 16) % 4 * 16 = y by omega]
  rfl

theorem encode_two (hx : x < 64) (hy : y < 64) (hz : z < 64) (hunused : z % 4 = 0) :
    encode [UInt8.ofNat (x * 4 + y / 16), UInt8.ofNat (y % 16 * 16 + z / 4)] =
      [symbol standard x, symbol standard y, symbol standard z, '='] := by
  rw [encode, encodeWith, toNat_first hx hy, toNat_second hz,
    show (x * 4 + y / 16) / 4 = x by omega,
    show (x * 4 + y / 16) % 4 * 16 + (y % 16 * 16 + z / 4) / 16 = y by omega,
    show (y % 16 * 16 + z / 4) % 16 * 4 = z by omega]
  rfl

theorem encode_group (hx : x < 64) (hy : y < 64) (hz : z < 64) (hw : w < 64) (bs : Bytes) :
    encode (UInt8.ofNat (x * 4 + y / 16) :: UInt8.ofNat (y % 16 * 16 + z / 4) ::
        UInt8.ofNat (z % 4 * 64 + w) :: bs) =
      symbol standard x :: symbol standard y :: symbol standard z :: symbol standard w ::
        encode bs := by
  rw [encode, encodeWith, toNat_first hx hy, toNat_second hz, toNat_third hw,
    show (x * 4 + y / 16) / 4 = x by omega,
    show (x * 4 + y / 16) % 4 * 16 + (y % 16 * 16 + z / 4) / 16 = y by omega,
    show (y % 16 * 16 + z / 4) % 16 * 4 + (z % 4 * 64 + w) / 64 = z by omega,
    show (z % 4 * 64 + w) % 64 = w by omega]
  rfl

end Groups

/-- Nothing is read but what some byte string is written as. -/
theorem encode_of_decode {cs : List Char} {bs : Bytes} (h : decode cs = some bs) :
    encode bs = cs := by
  fun_induction decode cs generalizing bs with
  | case1 =>
      obtain rfl := Option.some.inj h
      rfl
  | case2 a b =>
      obtain ⟨x, hx, ha⟩ := Option.bind_eq_some_iff.1 h
      obtain ⟨y, hy, hb⟩ := Option.bind_eq_some_iff.1 ha
      obtain ⟨hxlt, hxa⟩ := value?_eq_some hx
      obtain ⟨hylt, hyb⟩ := value?_eq_some hy
      split at hb
      · next hunused =>
          obtain rfl := Option.some.inj hb
          rw [encode_one hxlt hylt hunused, hxa, hyb]
      · exact nomatch hb
  | case3 a b c =>
      obtain ⟨x, hx, ha⟩ := Option.bind_eq_some_iff.1 h
      obtain ⟨y, hy, hb⟩ := Option.bind_eq_some_iff.1 ha
      obtain ⟨z, hz, hc⟩ := Option.bind_eq_some_iff.1 hb
      obtain ⟨hxlt, hxa⟩ := value?_eq_some hx
      obtain ⟨hylt, hyb⟩ := value?_eq_some hy
      obtain ⟨hzlt, hzc⟩ := value?_eq_some hz
      split at hc
      · next hunused =>
          obtain rfl := Option.some.inj hc
          rw [encode_two hxlt hylt hzlt hunused, hxa, hyb, hzc]
      · exact nomatch hc
  | case4 a b c d r _ _ ih =>
      obtain ⟨x, hx, ha⟩ := Option.bind_eq_some_iff.1 h
      obtain ⟨y, hy, hb⟩ := Option.bind_eq_some_iff.1 ha
      obtain ⟨z, hz, hc⟩ := Option.bind_eq_some_iff.1 hb
      obtain ⟨w, hw, hd⟩ := Option.bind_eq_some_iff.1 hc
      obtain ⟨rest, hrest, hlast⟩ := Option.bind_eq_some_iff.1 hd
      obtain ⟨hxlt, hxa⟩ := value?_eq_some hx
      obtain ⟨hylt, hyb⟩ := value?_eq_some hy
      obtain ⟨hzlt, hzc⟩ := value?_eq_some hz
      obtain ⟨hwlt, hwd⟩ := value?_eq_some hw
      obtain rfl := Option.some.inj hlast
      rw [encode_group hxlt hylt hzlt hwlt, hxa, hyb, hzc, hwd, ih hrest]
  | case5 => exact nomatch h

end RelayGate.Text.Base64

namespace RelayGate.Text

theorem ofBase64?_base64 (bs : Bytes) : ofBase64? (base64 bs) = some bs := by
  rw [ofBase64?, base64, String.toList_ofList, Base64.decode_encode]

theorem base64_inj {bs bs' : Bytes} : base64 bs = base64 bs' ↔ bs = bs' := by
  constructor
  · intro h
    have hread := congrArg ofBase64? h
    rwa [ofBase64?_base64, ofBase64?_base64, Option.some_inj] at hread
  · exact congrArg base64

theorem ofBase64?_eq_some_iff {s : String} {bs : Bytes} :
    ofBase64? s = some bs ↔ s = base64 bs := by
  constructor
  · intro h
    rw [base64, Base64.encode_of_decode h, String.ofList_toList]
  · rintro rfl
    exact ofBase64?_base64 bs

end RelayGate.Text
