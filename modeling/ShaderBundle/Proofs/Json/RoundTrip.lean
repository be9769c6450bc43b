/-
# Proofs.Json.RoundTrip — written values are read back

`Tree.read_pretty`: the text of a value over several lines is read as the tree of the value,
with nothing left over.  It is cut into the lexemes of the value, and these are put together
again by as much fuel as the reader gives itself: twice their number.
-/
import ShaderBundle.Proofs.Json.Scan

namespace ShaderBundle.Json

set_option autoImplicit false

/-! ## The front of a value -/

/-- A value begins with a lexeme, and this ends no list. -/
theorem exists_tokens_eq_cons (v : Value) :
    ∃ t ts, v.tokens = t :: ts ∧ t ≠ .closeList := by
  cases v with
  | null => exact ⟨_, _, by rw [Value.tokens], by simp⟩
  | bool b => exact ⟨_, _, by rw [Value.tokens], by simp⟩
  | nat n => exact ⟨_, _, by rw [Value.tokens], by simp⟩
  | text s => exact ⟨_, _, by rw [Value.tokens], by simp⟩
  | list vs => cases vs <;> exact ⟨_, _, by rw [Value.tokens], by simp⟩
  | record fs => cases fs <;> exact ⟨_, _, by rw [Value.tokens], by simp⟩

theorem length_tokens_pos (v : Value) : 0 < v.tokens.length := by
  obtain ⟨t, ts, tokens, -⟩ := exists_tokens_eq_cons v
  simp [tokens]

/-- A list that does not end at once has items. -/
theorem ofTokens_openList {t : Token} (notEnd : t ≠ .closeList) (fuel : Nat) (ts : List Token) :
    Tree.ofTokens (fuel + 1) (.openList :: t :: ts) =
      (itemsOfTokens fuel (t :: ts)).map fun p => (.list p.1, p.2) := by
  cases t <;> first | rfl | exact absurd rfl notEnd

/-! ## Reading lexemes -/

-- The fuel counts lexemes twice, because every item costs one step for itself and one for the
-- step to the next.  What stands before the rest of a list or a record is taken as read.
mutual

/-- The lexemes of a value are read as its tree. -/
theorem ofTokens_tokens (v : Value) (fuel : Nat) (enough : 2 * v.tokens.length ≤ fuel + 1)
    (rest : List Token) : Tree.ofTokens (fuel + 1) (v.tokens ++ rest) = some (v.tree, rest) := by
  match v with
  | .null => rfl
  | .bool b => rfl
  | .nat n => rfl
  | .text s => rfl
  | .list [] => rfl
  | .list (v :: vs) =>
      have positive := length_tokens_pos v
      simp only [Value.tokens, List.length_cons, List.length_append, List.length_nil] at enough
      obtain ⟨fuel, rfl⟩ : ∃ f, fuel = f + 2 := ⟨fuel - 2, by omega⟩
      have first := ofTokens_tokens v fuel (by omega)
        (itemTokens vs ++ .closeList :: rest)
      have items := itemsOfTokens_tokens vs (by omega) first
      obtain ⟨t, ts, tokens, notEnd⟩ := exists_tokens_eq_cons v
      simp only [Value.tokens, Value.tree, List.cons_append, List.append_assoc, List.nil_append,
        tokens] at items ⊢
      rw [ofTokens_openList notEnd, items]
      rfl
  | .record [] => rfl
  | .record ((k, v) :: fs) =>
      have positive := length_tokens_pos v
      simp only [Value.tokens, List.length_cons, List.length_append, List.length_nil] at enough
      obtain ⟨fuel, rfl⟩ : ∃ f, fuel = f + 2 := ⟨fuel - 2, by omega⟩
      have first := ofTokens_tokens v fuel (by omega)
        (fieldTokens fs ++ .closeRecord :: rest)
      have fields := fieldsOfTokens_tokens k fs (by omega) first
      simp only [Value.tokens, Value.tree, List.cons_append, List.append_assoc, List.nil_append]
      rw [Tree.ofTokens.eq_def]
      simp only [fields]
      rfl

/-- Behind a first item, items are read as their trees up to the end of their list. -/
theorem itemsOfTokens_tokens (vs : List Value) {fuel : Nat}
    (enough : 2 * (itemTokens vs).length ≤ fuel + 1) {t : Tree} {front rest : List Token}
    (first : Tree.ofTokens (fuel + 1) front = some (t, itemTokens vs ++ .closeList :: rest)) :
    itemsOfTokens (fuel + 2) front = some (t :: itemTrees vs, rest) := by
  rw [itemsOfTokens, first]
  match vs with
  | [] => rfl
  | w :: ws =>
      have positive := length_tokens_pos w
      simp only [itemTokens, List.length_cons, List.length_append] at enough
      obtain ⟨fuel, rfl⟩ : ∃ f, fuel = f + 1 := ⟨fuel - 1, by omega⟩
      have next := ofTokens_tokens w fuel (by omega)
        (itemTokens ws ++ .closeList :: rest)
      have items := itemsOfTokens_tokens ws (by omega) next
      simp only [itemTokens, List.cons_append, List.append_assoc, items]
      rfl

/-- Behind a key and a first value, fields are read as their trees up to the end of their
record. -/
theorem fieldsOfTokens_tokens (k : String) (fs : List (String × Value)) {fuel : Nat}
    (enough : 2 * (fieldTokens fs).length ≤ fuel + 1) {t : Tree} {front rest : List Token}
    (first : Tree.ofTokens (fuel + 1) front =
      some (t, fieldTokens fs ++ .closeRecord :: rest)) :
    fieldsOfTokens (fuel + 2) (.text (some k) :: .colon :: front) =
      some ((some k, t) :: fieldTrees fs, rest) := by
  rw [fieldsOfTokens.eq_def]
  simp only [first]
  match fs with
  | [] => rfl
  | (l, w) :: gs =>
      have positive := length_tokens_pos w
      simp only [fieldTokens, List.length_cons, List.length_append] at enough
      obtain ⟨fuel, rfl⟩ : ∃ f, fuel = f + 1 := ⟨fuel - 1, by omega⟩
      have next := ofTokens_tokens w fuel (by omega)
        (fieldTokens gs ++ .closeRecord :: rest)
      have fields := fieldsOfTokens_tokens l gs (by omega) next
      simp only [fieldTokens, List.cons_append, List.append_assoc, fields]
      rfl

end

/-- **The text of a value is read as the tree of the value.** -/
theorem Tree.read_pretty (v : Value) : Tree.read (Text.Utf8.bytes v.pretty) = some v.tree := by
  have tree := ofTokens_tokens v (2 * v.tokens.length) (by omega) []
  rw [List.append_nil] at tree
  rw [Tree.read, scan_pretty]
  simp [tree]

end ShaderBundle.Json
