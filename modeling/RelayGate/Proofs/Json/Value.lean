import RelayGate.Json.Value
import RelayGate.Proofs.Json.Token

namespace RelayGate.Json

open Token

theorem run_cons {r s : Reading} {t : Token} (h : step r t = some s) (ts : List Token) :
    run r (t :: ts) = run s ts := by
  rw [run, h, Option.bind_some]

theorem exists_tokens (v : Json) : ∃ t ts, v.tokens = t :: ts ∧ t ≠ .closeArray := by
  unfold tokens
  split <;> exact ⟨_, _, rfl, by simp⟩

theorem run_arrayStart (v : Json) (stack : List Frame) (ts : List Token) :
    run (.arrayStart, stack) (v.tokens ++ ts) = run (.value, .array [] :: stack) (v.tokens ++ ts) := by
  obtain ⟨t, us, hv, ht⟩ := exists_tokens v
  rw [hv, List.cons_append, run, run]
  cases t <;> first | rfl | exact absurd rfl ht

mutual

/-- The tokens of a value are read as that value, whatever is open around it. -/
theorem run_tokens (v : Json) (stack : List Frame) (ts : List Token) :
    run (.value, stack) (v.tokens ++ ts) = run (.done v, stack) ts :=
  match v with
  | .null | .bool _ | .number _ | .string _ | .array [] | .object [] => rfl
  | .array (v :: vs) => by
      simp only [tokens, List.cons_append, List.append_assoc]
      rw [run_cons rfl, run_arrayStart, run_tokens v, run_itemTokens vs]
      rfl
  | .object ((k, v) :: fs) => by
      simp only [tokens, List.cons_append, List.append_assoc]
      rw [run_cons rfl, run_cons rfl, run_cons rfl, run_tokens v, run_fieldTokens fs]
      rfl

theorem run_itemTokens (vs : List Json) (v : Json) (seen : List Json) (stack : List Frame)
    (ts : List Token) : run (.done v, .array seen :: stack) (itemTokens vs ++ ts) =
      run (.done (.array (seen.reverse ++ v :: vs)), stack) ts :=
  match vs with
  | [] => by
      rw [itemTokens, List.cons_append, run_cons rfl, List.reverse_cons]
      rfl
  | w :: vs => by
      simp only [itemTokens, List.cons_append, List.append_assoc]
      rw [run_cons rfl, run_tokens w, run_itemTokens vs, List.reverse_cons, List.append_assoc]
      rfl

theorem run_fieldTokens (fs : List (Option String × Json)) (v : Json)
    (seen : List (Option String × Json)) (k : Option String) (stack : List Frame)
    (ts : List Token) : run (.done v, .object seen k :: stack) (fieldTokens fs ++ ts) =
      run (.done (.object (seen.reverse ++ (k, v) :: fs)), stack) ts :=
  match fs with
  | [] => by
      rw [fieldTokens, List.cons_append, run_cons rfl, List.reverse_cons]
      rfl
  | (k', w) :: fs => by
      simp only [fieldTokens, List.cons_append, List.append_assoc]
      rw [run_cons rfl, run_cons rfl, run_cons rfl, run_tokens w, run_fieldTokens fs,
        List.reverse_cons, List.append_assoc]
      rfl

end

theorem ofTokens?_tokens (v : Json) : ofTokens? v.tokens = some v := by
  have h := run_tokens v [] []
  rw [List.append_nil] at h
  rw [ofTokens?, h, run]

theorem spaced_cons {t : Token} {ts : List Token} (ht : ¬ t.IsNumber) (h : Spaced ts) :
    Spaced (t :: ts) :=
  ⟨fun hn => absurd hn ht, h⟩

theorem head?_itemTokens (vs : List Json) (ts : List Token) :
    ∀ t ∈ (itemTokens vs ++ ts).head?, ¬ t.IsNumber := by
  intro t ht
  cases vs <;> (obtain rfl := Option.some.inj ht; exact id)

theorem head?_fieldTokens (fs : List (Option String × Json)) (ts : List Token) :
    ∀ t ∈ (fieldTokens fs ++ ts).head?, ¬ t.IsNumber := by
  intro t ht
  cases fs <;> (obtain rfl := Option.some.inj ht; exact id)

mutual

theorem spaced_tokens (v : Json) {ts : List Token} (hn : ∀ t ∈ ts.head?, ¬ t.IsNumber)
    (h : Spaced ts) : Spaced (v.tokens ++ ts) :=
  match v with
  | .null | .bool _ | .string _ => spaced_cons id h
  | .number _ => ⟨fun _ => hn, h⟩
  | .array [] | .object [] => spaced_cons id (spaced_cons id h)
  | .array (v :: vs) => by
      simp only [tokens, List.cons_append, List.append_assoc]
      exact spaced_cons id (spaced_tokens v (head?_itemTokens vs ts) (spaced_itemTokens vs h))
  | .object ((k, v) :: fs) => by
      simp only [tokens, List.cons_append, List.append_assoc]
      exact spaced_cons id (spaced_cons id (spaced_cons id
        (spaced_tokens v (head?_fieldTokens fs ts) (spaced_fieldTokens fs h))))

theorem spaced_itemTokens (vs : List Json) {ts : List Token} (h : Spaced ts) :
    Spaced (itemTokens vs ++ ts) :=
  match vs with
  | [] => spaced_cons id h
  | v :: vs => by
      simp only [itemTokens, List.cons_append, List.append_assoc]
      exact spaced_cons id (spaced_tokens v (head?_itemTokens vs ts) (spaced_itemTokens vs h))

theorem spaced_fieldTokens (fs : List (Option String × Json)) {ts : List Token} (h : Spaced ts) :
    Spaced (fieldTokens fs ++ ts) :=
  match fs with
  | [] => spaced_cons id h
  | (k, v) :: fs => by
      simp only [fieldTokens, List.cons_append, List.append_assoc]
      exact spaced_cons id (spaced_cons id (spaced_cons id
        (spaced_tokens v (head?_fieldTokens fs ts) (spaced_fieldTokens fs h))))

end

theorem ofText?_toText (v : Json) : Token.ofText? v.toText.toList = some v.tokens := by
  have h : Spaced v.tokens := by
    have hs : Spaced (v.tokens ++ []) := spaced_tokens v (fun _ ht => nomatch ht) trivial
    rwa [List.append_nil] at hs
  rw [toText, String.toList_ofList, render, ofText?_render h]

theorem parse_toText (v : Json) : parse v.toText = some v := by
  rw [parse, ofText?_toText, Option.bind_some, ofTokens?_tokens]

theorem toText_injective {v w : Json} (h : v.toText = w.toText) : v = w := by
  have hv := parse_toText v
  rw [h, parse_toText] at hv
  exact (Option.some.inj hv).symm

end RelayGate.Json
