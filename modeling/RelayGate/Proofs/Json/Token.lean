import RelayGate.Json.Token
import RelayGate.Proofs.Numeral

namespace RelayGate.Json.Token

theorem unit?_digits : ∀ n, n < 0x20 →
    unit? '0' '0' (Text.Hex.digit (n / 16)) (Text.Hex.digit (n % 16)) = some n := by
  decide

theorem joinPieces_unit {u : Nat} (h : u < 0xD800) (ps : List Piece) :
    joinPieces (.unit u :: ps) = (joinPieces ps).map (Char.ofNat u :: ·) := by
  cases ps with
  | nil => simp [joinPieces, h]
  | cons p ps => cases p <;> simp [joinPieces, h]

theorem scanPieces_char {c : Char} (hq : c ≠ '"') (hb : c ≠ '\\') (hc : ¬ c.toNat < 0x20)
    (r : List Char) :
    scanPieces (c :: r) = (scanPieces r).map fun x => (.char c :: x.1, x.2) := by
  rw [scanPieces]
  · rw [if_neg hc]
    cases scanPieces r <;> rfl
  · exact hq
  · exact fun _ _ _ _ _ h => absurd h hb
  · exact fun _ _ h => absurd h hb

theorem scanPieces_unescape {e c : Char} (hu : e ≠ 'u') (h : unescape? e = some c) (r : List Char) :
    scanPieces ('\\' :: e :: r) = (scanPieces r).map fun x => (.char c :: x.1, x.2) := by
  rw [scanPieces]
  · rw [h]
    cases scanPieces r <;> rfl
  · exact fun _ _ _ _ _ h => absurd h hu

theorem exists_piece (c : Char) : ∃ p : Piece,
    (∀ r, scanPieces (escape c ++ r) = (scanPieces r).map fun x => (p :: x.1, x.2)) ∧
      ∀ ps, joinPieces (p :: ps) = (joinPieces ps).map (c :: ·) := by
  have hjoin (ps : List Piece) : joinPieces (.char c :: ps) = (joinPieces ps).map (c :: ·) := rfl
  unfold escape
  split
  case h_8 =>
    split
    next hc =>
      refine ⟨.unit c.toNat, fun r => ?_, fun ps => ?_⟩
      · simp only [List.cons_append, List.nil_append, scanPieces, unit?_digits c.toNat hc,
          Option.bind_eq_bind, Option.bind_some]
        cases scanPieces r <;> rfl
      · rw [joinPieces_unit (by omega), Char.ofNat_toNat]
    next hc => exact ⟨.char c, scanPieces_char ‹_› ‹_› hc, hjoin⟩
  all_goals exact ⟨_, scanPieces_unescape (by decide) rfl, hjoin⟩

theorem scanPieces_escaped (s r : List Char) : ∃ ps,
    scanPieces (s.flatMap escape ++ '"' :: r) = some (ps, r) ∧ joinPieces ps = some s := by
  induction s with
  | nil => exact ⟨[], rfl, rfl⟩
  | cons c s ih =>
      obtain ⟨ps, hs, hj⟩ := ih
      obtain ⟨p, hp, hpj⟩ := exists_piece c
      refine ⟨p :: ps, ?_, ?_⟩
      · rw [List.flatMap_cons, List.append_assoc, hp, hs, Option.map_some]
      · rw [hpj, hj, Option.map_some]

theorem scan_renderText (s r : List Char) :
    scan (renderText s ++ r) = some (.string (some (String.ofList s)), r) := by
  obtain ⟨ps, hs, hj⟩ := scanPieces_escaped s r
  have hr : renderText s ++ r = '"' :: (s.flatMap escape ++ '"' :: r) := by simp [renderText]
  rw [hr, scan, hs]
  simp [hj]

/-- Numbers are the only tokens whose text may run into what follows. -/
def IsNumber : Token → Prop
  | .number _ => True
  | _ => False

def numberHeads : List Char := ['-', '0', '1', '2', '3', '4', '5', '6', '7', '8', '9']

theorem digitChar_mem_numberHeads (d : Fin 10) : Numeral.digitChar d ∈ numberHeads := by
  revert d
  decide

theorem exists_render_number (n : Numeral) : ∃ c s, n.render = c :: s ∧ c ∈ numberHeads := by
  obtain ⟨negative, whole, fraction, exponent⟩ := n
  cases negative with
  | true => exact ⟨'-', _, rfl, by decide⟩
  | false =>
      obtain ⟨d, ds, hd⟩ := Numeral.exists_digitsOf whole
      refine ⟨Numeral.digitChar d, ds.map Numeral.digitChar ++ Numeral.renderFraction fraction ++
        Numeral.renderExponent exponent, ?_, digitChar_mem_numberHeads d⟩
      simp only [Numeral.render, ← Numeral.map_digitChar_digitsOf, hd]
      rfl

theorem scan_number {c : Char} (h : c ∈ numberHeads) (s : List Char) :
    scan (c :: s) = (Numeral.scan (c :: s)).map fun x => (.number x.1, x.2) := by
  have hother : numberHeads.all fun c =>
      c ∉ ['[', ']', '\x7b', '\x7d', ',', ':', 'n', 't', 'f', '"'] := by decide
  have hc := of_decide_eq_true (List.all_eq_true.1 hother c h)
  simp only [List.mem_cons, List.not_mem_nil, or_false, not_or] at hc
  rw [scan]
  · cases Numeral.scan (c :: s) <;> rfl
  all_goals simp [hc]

theorem scan_half (r : List Char) : scan (render (.string none) ++ r) = some (.string none, r) := by
  have hu : unit? 'd' '8' '0' '0' = some 0xD800 := rfl
  have hs : scanPieces ('\\' :: 'u' :: 'd' :: '8' :: '0' :: '0' :: '"' :: r) =
      some ([.unit 0xD800], r) := by
    simp [scanPieces, hu]
  have hj : joinPieces [.unit 0xD800] = none := by simp [joinPieces]
  simp only [render, List.cons_append, List.nil_append, scan]
  rw [hs]
  simp [hj]

theorem scan_render (t : Token) {r : List Char} (h : t.IsNumber → Numeral.StopsNumeral r) :
    scan (t.render ++ r) = some (t, r) := by
  cases t with
  | bool b => cases b <;> rfl
  | number n =>
      obtain ⟨c, s, hr, hc⟩ := exists_render_number n
      have hn := Numeral.scan_render n (h trivial)
      rw [hr] at hn
      rw [render, hr, List.cons_append, scan_number hc, ← List.cons_append, hn, Option.map_some]
  | string s =>
      cases s with
      | none => exact scan_half r
      | some s => rw [render, scan_renderText, String.ofList_toList]
  | _ => rfl

def Spaced : List Token → Prop
  | [] => True
  | t :: ts => (t.IsNumber → ∀ u ∈ ts.head?, ¬ u.IsNumber) ∧ Spaced ts

theorem stopsNumeral_render {t : Token} (h : ¬ t.IsNumber) (r : List Char) :
    Numeral.StopsNumeral (t.render ++ r) := by
  intro c hc
  cases t with
  | number n => exact absurd trivial h
  | bool b => cases b <;> (obtain rfl := Option.some.inj hc; decide)
  | string s => cases s <;> (obtain rfl := Option.some.inj hc; decide)
  | _ => obtain rfl := Option.some.inj hc; decide

theorem exists_render (t : Token) : ∃ c s, t.render = c :: s ∧ isSpace c = false := by
  cases t with
  | number n =>
      obtain ⟨c, s, hr, hc⟩ := exists_render_number n
      have hspace : numberHeads.all (!isSpace ·) := by decide
      exact ⟨c, s, hr, by simpa using List.all_eq_true.1 hspace c hc⟩
  | bool b => cases b <;> exact ⟨_, _, rfl, rfl⟩
  | string s => cases s <;> exact ⟨_, _, rfl, rfl⟩
  | _ => exact ⟨_, _, rfl, rfl⟩

theorem scanAll_render (ts : List Token) (h : Spaced ts) (fuel : Nat)
    (hf : (ts.flatMap render).length < fuel) : scanAll fuel (ts.flatMap render) = some ts := by
  induction ts generalizing fuel with
  | nil =>
      obtain ⟨fuel, rfl⟩ := Nat.exists_eq_add_one_of_ne_zero (Nat.ne_of_gt (Nat.zero_lt_of_lt hf))
      rfl
  | cons t ts ih =>
      obtain ⟨fuel, rfl⟩ := Nat.exists_eq_add_one_of_ne_zero (Nat.ne_of_gt (Nat.zero_lt_of_lt hf))
      obtain ⟨c, s, hr, hc⟩ := exists_render t
      have hnext : t.IsNumber → Numeral.StopsNumeral (ts.flatMap render) := by
        intro hn
        cases ts with
        | nil => exact fun c hc => nomatch hc
        | cons u us => exact stopsNumeral_render (h.1 hn u rfl) _
      have hscan := scan_render t hnext
      rw [List.flatMap_cons, hr, List.cons_append] at hf ⊢
      rw [hr, List.cons_append] at hscan
      have hlen : (ts.flatMap render).length < fuel := by
        simp only [List.length_cons, List.length_append] at hf
        omega
      rw [scanAll, List.dropWhile_cons_of_neg (by simp [hc])]
      simp only [hscan, Option.bind_eq_bind, Option.bind_some, ih h.2 fuel hlen]
      rfl

theorem ofText?_render {ts : List Token} (h : Spaced ts) :
    ofText? (ts.flatMap render) = some ts :=
  scanAll_render ts h _ (Nat.lt_succ_self _)

end RelayGate.Json.Token
