/-
# Spirv.Word — words and their bytes

A word has four bytes, the low one first.  `ofBytes?` reads bytes as words and
refuses a length that is no multiple of four (`ofBytes?_eq_none_iff`); otherwise it undoes
`bytes` (`ofBytes?_eq_some_iff`).
-/
namespace ShaderBundle.Spirv.Word

set_option autoImplicit false

def toBytes (w : UInt32) : List UInt8 :=
  let n := w.toNat
  [UInt8.ofNat n, UInt8.ofNat (n >>> 8), UInt8.ofNat (n >>> 16), UInt8.ofNat (n >>> 24)]

def bytes (ws : List UInt32) : List UInt8 := ws.flatMap toBytes

def ofFour (a b c d : UInt8) : UInt32 :=
  UInt32.ofNat (a.toNat + b.toNat <<< 8 + c.toNat <<< 16 + d.toNat <<< 24)

def ofBytes? : List UInt8 → Option (List UInt32)
  | [] => some []
  | a :: b :: c :: d :: rest => (ofBytes? rest).map (ofFour a b c d :: ·)
  | _ => none

/-- The words of bytes, filled up with zeros. -/
def padded : List UInt8 → List UInt32
  | [] => []
  | [a] => [ofFour a 0 0 0]
  | [a, b] => [ofFour a b 0 0]
  | [a, b, c] => [ofFour a b c 0]
  | a :: b :: c :: d :: rest => ofFour a b c d :: padded rest

theorem ofFour_toBytes (w : UInt32) :
    ofFour (UInt8.ofNat w.toNat) (UInt8.ofNat (w.toNat >>> 8)) (UInt8.ofNat (w.toNat >>> 16))
      (UInt8.ofNat (w.toNat >>> 24)) = w := by
  apply UInt32.toNat_inj.mp
  have := w.toNat_lt
  simp only [ofFour, UInt32.toNat_ofNat', UInt8.toNat_ofNat']
  omega

theorem ofBytes?_bytes (ws : List UInt32) : ofBytes? (bytes ws) = some ws := by
  induction ws with
  | nil => rfl
  | cons w ws ih =>
    have : ofBytes? (bytes (w :: ws)) = (ofBytes? (bytes ws)).map
        (ofFour (UInt8.ofNat w.toNat) (UInt8.ofNat (w.toNat >>> 8))
          (UInt8.ofNat (w.toNat >>> 16)) (UInt8.ofNat (w.toNat >>> 24)) :: ·) := rfl
    rw [this, ih, ofFour_toBytes]
    rfl

theorem toBytes_ofFour (a b c d : UInt8) : toBytes (ofFour a b c d) = [a, b, c, d] := by
  have := a.toNat_lt
  have := b.toNat_lt
  have := c.toNat_lt
  have := d.toNat_lt
  simp only [toBytes, ofFour, List.cons.injEq, and_true, ← UInt8.toNat_inj, UInt32.toNat_ofNat',
    UInt8.toNat_ofNat']
  omega

/-- Bytes are read as the words that they are the bytes of. -/
theorem ofBytes?_eq_some_iff (bs : List UInt8) (ws : List UInt32) :
    ofBytes? bs = some ws ↔ bs = bytes ws := by
  constructor
  · intro read
    induction bs using ofBytes?.induct generalizing ws with
    | case1 =>
        cases read
        rfl
    | case2 a b c d rest ih =>
        obtain ⟨tail, ofRest, rfl⟩ := Option.map_eq_some_iff.mp read
        rw [bytes, List.flatMap_cons, toBytes_ofFour, ← bytes, ← ih tail ofRest]
        rfl
    | case3 => simp_all [ofBytes?]
  · rintro rfl
    exact ofBytes?_bytes ws

/-- Bytes are not read as words exactly when a word at their end is cut short. -/
theorem ofBytes?_eq_none_iff (bs : List UInt8) : ofBytes? bs = none ↔ ¬ 4 ∣ bs.length := by
  induction bs using ofBytes?.induct with
  | case1 => simp [ofBytes?]
  | case2 a b c d rest ih =>
      simp only [ofBytes?, Option.map_eq_none_iff, ih, List.length_cons]
      omega
  | case3 bs notEmpty notFour =>
      match bs with
      | [] => exact absurd rfl notEmpty
      | [_] | [_, _] | [_, _, _] => simp [ofBytes?]
      | a :: b :: c :: d :: rest => exact absurd rfl (notFour a b c d rest)

theorem four_dvd_length_bytes (ws : List UInt32) : 4 ∣ (bytes ws).length := by
  by_cases whole : 4 ∣ (bytes ws).length
  · exact whole
  · have none := (ofBytes?_eq_none_iff _).mpr whole
    cases none.symm.trans (ofBytes?_bytes ws)

end ShaderBundle.Spirv.Word
