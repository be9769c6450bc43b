/-
# Proofs.Text.Utf8 — bytes and characters correspond one to one

`decode_eq_ok_iff`: bytes read as some characters exactly when they are what is
written for these characters.  So reading undoes writing, and no text has two
spellings.

Between the two stands `Form`, the byte sequences that read as one character: what is
written for a character is a form of it (`form_encodeChar`), a form is what is written
for its character (`Form.encodeChar_eq`), and reading takes forms off the front
(`Form.decodeAt_append`, `exists_form_of_eq_ok`).
-/
import ShaderBundle.Text.Utf8
import Mathlib.Tactic.SplitIfs

namespace ShaderBundle.Text.Utf8

set_option autoImplicit false

/-! ## Bytes by their numbers -/

theorem width_eq (a : UInt8) : width a =
    if a.toNat < 0x80 then 1
    else if a.toNat < 0xC2 then 0
    else if a.toNat < 0xE0 then 2
    else if a.toNat < 0xF0 then 3
    else if a.toNat < 0xF5 then 4
    else 0 := by
  simp only [width, UInt8.lt_iff_toNat_lt, UInt8.reduceToNat]

theorem width_eq_one_iff (a : UInt8) : width a = 1 ↔ a.toNat < 0x80 := by
  rw [width_eq]
  grind

theorem width_eq_two_iff (a : UInt8) : width a = 2 ↔ 0xC2 ≤ a.toNat ∧ a.toNat < 0xE0 := by
  rw [width_eq]
  grind

theorem width_eq_three_iff (a : UInt8) : width a = 3 ↔ 0xE0 ≤ a.toNat ∧ a.toNat < 0xF0 := by
  rw [width_eq]
  grind

theorem width_eq_four_iff (a : UInt8) : width a = 4 ↔ 0xF0 ≤ a.toNat ∧ a.toNat < 0xF5 := by
  rw [width_eq]
  grind

theorem width_cases (a : UInt8) :
    width a = 0 ∨ width a = 1 ∨ width a = 2 ∨ width a = 3 ∨ width a = 4 := by
  rw [width_eq]
  split_ifs <;> simp

theorem isTail_iff (b : UInt8) : isTail b = true ↔ 0x80 ≤ b.toNat ∧ b.toNat ≤ 0xBF := by
  simp [isTail, UInt8.le_iff_toNat_le]

theorem isSecond_iff (a b : UInt8) : isSecond a b = true ↔
    if a.toNat = 0xE0 then 0xA0 ≤ b.toNat ∧ b.toNat ≤ 0xBF
    else if a.toNat = 0xED then 0x80 ≤ b.toNat ∧ b.toNat ≤ 0x9F
    else if a.toNat = 0xF0 then 0x90 ≤ b.toNat ∧ b.toNat ≤ 0xBF
    else if a.toNat = 0xF4 then 0x80 ≤ b.toNat ∧ b.toNat ≤ 0x8F
    else 0x80 ≤ b.toNat ∧ b.toNat ≤ 0xBF := by
  simp only [isSecond, ← UInt8.toNat_inj, UInt8.reduceToNat]
  split_ifs <;> simp [UInt8.le_iff_toNat_le, isTail]

/-! ## Characters by their numbers -/

theorem isValidChar_toNat (c : Char) :
    c.toNat < 0xD800 ∨ 0xDFFF < c.toNat ∧ c.toNat < 0x110000 := c.valid

theorem toNat_charOfNat {n : Nat} (h : n < 0xD800 ∨ 0xDFFF < n ∧ n < 0x110000) :
    (Char.ofNat n).toNat = n := by
  have valid : n.isValidChar := h
  unfold Char.ofNat
  rw [dif_pos valid]
  rfl

theorem charOfNat_eq {n : Nat} {c : Char} (h : n = c.toNat) : Char.ofNat n = c := by
  rw [h, Char.ofNat_toNat]

/-! ## One character -/

/-- The bytes that read as one character. -/
inductive Form : List UInt8 → Char → Prop where
  | one {a : UInt8} : width a = 1 → Form [a] (Char.ofNat a.toNat)
  | two {a b : UInt8} : width a = 2 → isSecond a b = true → Form [a, b] (char2 a b)
  | three {a b c : UInt8} : width a = 3 → isSecond a b = true → isTail c = true →
      Form [a, b, c] (char3 a b c)
  | four {a b c d : UInt8} : width a = 4 → isSecond a b = true → isTail c = true →
      isTail d = true → Form [a, b, c, d] (char4 a b c d)

theorem encodeChar_eq (c : Char) : encodeChar c =
    if c.toNat < 0x80 then [UInt8.ofNat c.toNat]
    else if c.toNat < 0x800 then
      [UInt8.ofNat (0xC0 + c.toNat / 0x40), UInt8.ofNat (0x80 + c.toNat % 0x40)]
    else if c.toNat < 0x10000 then
      [UInt8.ofNat (0xE0 + c.toNat / 0x1000), UInt8.ofNat (0x80 + c.toNat / 0x40 % 0x40),
        UInt8.ofNat (0x80 + c.toNat % 0x40)]
    else
      [UInt8.ofNat (0xF0 + c.toNat / 0x40000), UInt8.ofNat (0x80 + c.toNat / 0x1000 % 0x40),
        UInt8.ofNat (0x80 + c.toNat / 0x40 % 0x40), UInt8.ofNat (0x80 + c.toNat % 0x40)] := rfl

theorem ofNat_eq {n : Nat} {a : UInt8} (h : n = a.toNat) : UInt8.ofNat n = a := by
  rw [h, UInt8.ofNat_toNat]

theorem toNat_eq {n : Nat} {a : UInt8} (given : UInt8.ofNat n = a) (small : n < 0x100) :
    a.toNat = n := by
  rw [← given, UInt8.toNat_ofNat']
  exact Nat.mod_eq_of_lt small

/-- Every character is written in a form that reads as it. -/
theorem form_encodeChar (c : Char) : Form (encodeChar c) c := by
  have valid := isValidChar_toNat c
  rw [encodeChar_eq]
  split_ifs with h₁ h₂ h₃
  · generalize ha : UInt8.ofNat c.toNat = a
    have na : a.toNat = c.toNat := toNat_eq ha (by omega)
    have code : Char.ofNat a.toNat = c := charOfNat_eq na
    exact code ▸ Form.one ((width_eq_one_iff a).mpr (by omega))
  · generalize ha : UInt8.ofNat (0xC0 + c.toNat / 0x40) = a
    generalize hb : UInt8.ofNat (0x80 + c.toNat % 0x40) = b
    have na : a.toNat = 0xC0 + c.toNat / 0x40 := toNat_eq ha (by omega)
    have nb : b.toNat = 0x80 + c.toNat % 0x40 := toNat_eq hb (by omega)
    have code : char2 a b = c := charOfNat_eq (by omega)
    have second : isSecond a b = true := by rw [isSecond_iff]; split_ifs <;> omega
    exact code ▸ Form.two ((width_eq_two_iff a).mpr (by omega)) second
  · generalize ha : UInt8.ofNat (0xE0 + c.toNat / 0x1000) = a
    generalize hb : UInt8.ofNat (0x80 + c.toNat / 0x40 % 0x40) = b
    generalize hd : UInt8.ofNat (0x80 + c.toNat % 0x40) = d
    have na : a.toNat = 0xE0 + c.toNat / 0x1000 := toNat_eq ha (by omega)
    have nb : b.toNat = 0x80 + c.toNat / 0x40 % 0x40 := toNat_eq hb (by omega)
    have nd : d.toNat = 0x80 + c.toNat % 0x40 := toNat_eq hd (by omega)
    have code : char3 a b d = c := charOfNat_eq (by omega)
    have second : isSecond a b = true := by rw [isSecond_iff]; split_ifs <;> omega
    exact code ▸ Form.three ((width_eq_three_iff a).mpr (by omega)) second
      ((isTail_iff d).mpr (by omega))
  · generalize ha : UInt8.ofNat (0xF0 + c.toNat / 0x40000) = a
    generalize hb : UInt8.ofNat (0x80 + c.toNat / 0x1000 % 0x40) = b
    generalize hd : UInt8.ofNat (0x80 + c.toNat / 0x40 % 0x40) = d
    generalize he : UInt8.ofNat (0x80 + c.toNat % 0x40) = e
    have na : a.toNat = 0xF0 + c.toNat / 0x40000 := toNat_eq ha (by omega)
    have nb : b.toNat = 0x80 + c.toNat / 0x1000 % 0x40 :=
      toNat_eq hb (by omega)
    have nd : d.toNat = 0x80 + c.toNat / 0x40 % 0x40 := toNat_eq hd (by omega)
    have ne : e.toNat = 0x80 + c.toNat % 0x40 := toNat_eq he (by omega)
    have code : char4 a b d e = c := charOfNat_eq (by omega)
    have second : isSecond a b = true := by rw [isSecond_iff]; split_ifs <;> omega
    exact code ▸ Form.four ((width_eq_four_iff a).mpr (by omega)) second
      ((isTail_iff d).mpr (by omega)) ((isTail_iff e).mpr (by omega))

/-- Only the bytes of a character read as it. -/
theorem Form.encodeChar_eq {front : List UInt8} {c : Char} (form : Form front c) :
    encodeChar c = front := by
  cases form with
  | @one a lead =>
      rw [width_eq_one_iff] at lead
      have code : (Char.ofNat a.toNat).toNat = a.toNat := toNat_charOfNat (by omega)
      rw [Utf8.encodeChar_eq, code, if_pos lead, UInt8.ofNat_toNat]
  | @two a b lead second =>
      rw [width_eq_two_iff] at lead
      rw [isSecond_iff] at second
      have tail : 0x80 ≤ b.toNat ∧ b.toNat ≤ 0xBF := by split_ifs at second <;> omega
      have code : (char2 a b).toNat = (a.toNat - 0xC0) * 0x40 + (b.toNat - 0x80) :=
        toNat_charOfNat (by omega)
      rw [Utf8.encodeChar_eq, code, if_neg (by omega), if_pos (by omega),
        ofNat_eq (a := a) (by omega), ofNat_eq (a := b) (by omega)]
  | @three a b d lead second third =>
      rw [width_eq_three_iff] at lead
      rw [isSecond_iff] at second
      rw [isTail_iff] at third
      have tail : 0x80 ≤ b.toNat ∧ b.toNat ≤ 0xBF := by split_ifs at second <;> omega
      have low : 0x20 ≤ (a.toNat - 0xE0) * 0x40 + (b.toNat - 0x80) := by
        split_ifs at second <;> omega
      have code : (char3 a b d).toNat =
          (a.toNat - 0xE0) * 0x1000 + (b.toNat - 0x80) * 0x40 + (d.toNat - 0x80) :=
        toNat_charOfNat (by split_ifs at second <;> omega)
      rw [Utf8.encodeChar_eq, code, if_neg (by omega), if_neg (by omega), if_pos (by omega),
        ofNat_eq (a := a) (by omega), ofNat_eq (a := b) (by omega), ofNat_eq (a := d) (by omega)]
  | @four a b d e lead second third fourth =>
      rw [width_eq_four_iff] at lead
      rw [isSecond_iff] at second
      rw [isTail_iff] at third fourth
      have tail : 0x80 ≤ b.toNat ∧ b.toNat ≤ 0xBF := by split_ifs at second <;> omega
      have low : 0x10 ≤ (a.toNat - 0xF0) * 0x40 + (b.toNat - 0x80) := by
        split_ifs at second <;> omega
      have code : (char4 a b d e).toNat = (a.toNat - 0xF0) * 0x40000 + (b.toNat - 0x80) * 0x1000
          + (d.toNat - 0x80) * 0x40 + (e.toNat - 0x80) :=
        toNat_charOfNat (by split_ifs at second <;> omega)
      rw [Utf8.encodeChar_eq, code, if_neg (by omega), if_neg (by omega), if_neg (by omega),
        ofNat_eq (a := a) (by omega), ofNat_eq (a := b) (by omega), ofNat_eq (a := d) (by omega),
        ofNat_eq (a := e) (by omega)]

/-- A form at the front is read as its character. -/
theorem Form.decodeAt_append {front : List UInt8} {c : Char} (form : Form front c) (i : Nat)
    (rest : List UInt8) :
    decodeAt i (front ++ rest) = (decodeAt (i + front.length) rest).map (c :: ·) := by
  cases form with
  | one lead =>
      rw [decodeAt.eq_def]
      simp [lead]
  | two lead second =>
      rw [decodeAt.eq_def]
      simp [lead, second]
  | three lead second third =>
      rw [decodeAt.eq_def]
      simp [lead, second, third]
  | four lead second third fourth =>
      rw [decodeAt.eq_def]
      simp [lead, second, third, fourth]

theorem Form.tail_of_eq_ok {front : List UInt8} {c : Char} (form : Form front c) {i : Nat}
    {rest : List UInt8} {cs : List Char} (read : decodeAt i (front ++ rest) = .ok cs) :
    ∃ ds, cs = c :: ds ∧ decodeAt (i + front.length) rest = .ok ds := by
  rw [form.decodeAt_append] at read
  cases tail : decodeAt (i + front.length) rest with
  | error fault =>
      rw [tail] at read
      cases read
  | ok ds =>
      rw [tail] at read
      cases read
      exact ⟨ds, rfl, rfl⟩

/-- What is read starts with a form, unless it is empty. -/
theorem exists_form_of_eq_ok {i : Nat} {a : UInt8} {r : List UInt8} {cs : List Char}
    (read : decodeAt i (a :: r) = .ok cs) :
    ∃ front c rest, Form front c ∧ a :: r = front ++ rest := by
  rw [decodeAt.eq_def] at read
  obtain lead | lead | lead | lead | lead := width_cases a <;> simp only [lead] at read
  · cases read
  · exact ⟨_, _, _, .one lead, rfl⟩
  · split at read
    · cases read
    · split at read
      · exact ⟨_, _, _, .two lead ‹_›, rfl⟩
      · cases read
  · split at read
    · cases read
    · split at read
      · split at read
        · cases read
        · split at read
          · exact ⟨_, _, _, .three lead ‹_› ‹_›, rfl⟩
          · cases read
      · cases read
  · split at read
    · cases read
    · split at read
      · split at read
        · cases read
        · split at read
          · split at read
            · cases read
            · split at read
              · exact ⟨_, _, _, .four lead ‹_› ‹_› ‹_›, rfl⟩
              · cases read
          · cases read
      · cases read

/-! ## Texts -/

/-- The bytes of some characters, and no other bytes, read as these characters. -/
theorem decodeAt_eq_ok_iff (i : Nat) (bs : List UInt8) (cs : List Char) :
    decodeAt i bs = .ok cs ↔ bs = encode cs := by
  induction cs generalizing i bs with
  | nil =>
      cases bs with
      | nil => simp [decodeAt]
      | cons a r =>
          simp only [encode_nil, reduceCtorEq, iff_false]
          intro read
          obtain ⟨front, d, rest, form, same⟩ := exists_form_of_eq_ok read
          rw [same] at read
          obtain ⟨ds, noneLeft, -⟩ := form.tail_of_eq_ok read
          cases noneLeft
  | cons c cs ih =>
      rw [encode_cons]
      constructor
      · intro read
        cases bs with
        | nil => cases read
        | cons a r =>
            obtain ⟨front, d, rest, form, same⟩ := exists_form_of_eq_ok read
            rw [same] at read
            obtain ⟨ds, chars, tail⟩ := form.tail_of_eq_ok read
            cases chars
            rw [same, form.encodeChar_eq, (ih _ _).mp tail]
      · rintro rfl
        rw [(form_encodeChar c).decodeAt_append, (ih _ _).mpr rfl]
        rfl

theorem decode_eq_ok_iff (bs : List UInt8) (cs : List Char) :
    decode bs = .ok cs ↔ bs = encode cs := decodeAt_eq_ok_iff 0 bs cs

/-- Texts with the same bytes are the same. -/
theorem bytes_inj {s t : String} : bytes s = bytes t ↔ s = t := by
  constructor
  · intro same
    have read : decode (bytes s) = .ok t.toList := (decode_eq_ok_iff _ _).mpr same
    have own : decode (bytes s) = .ok s.toList := (decode_eq_ok_iff _ _).mpr rfl
    exact String.toList_injective (Except.ok.inj (own.symm.trans read))
  · rintro rfl
    rfl

end ShaderBundle.Text.Utf8
