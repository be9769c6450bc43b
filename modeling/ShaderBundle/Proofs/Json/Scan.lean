/-
# Proofs.Json.Scan — written values are cut into their lexemes

Every value has its lexemes (`Value.tokens`), and its text over several lines is cut into
exactly these, whatever stands behind it (`scans_value`).  White space falls away, and a text
in quotes is read as the text it was written for.  Only a number can run on into what stands
behind it; so this must not start like the rest of a number (`Stops`), and behind a value
there is a comma, a fresh line or nothing.
-/
import ShaderBundle.Json.Tree
import ShaderBundle.Proofs.Text.Utf8
import Mathlib.Tactic.SplitIfs

namespace ShaderBundle.Json

set_option autoImplicit false

open Text.Utf8 (encode encodeChar)

/-! ## The lexemes of values -/

mutual

def Value.tokens : Value → List Token
  | .null => [.null]
  | .bool b => [.bool b]
  | .nat n => [.number (.nat n)]
  | .text s => [.text (some s)]
  | .list [] => [.openList, .closeList]
  | .list (v :: vs) => .openList :: (v.tokens ++ itemTokens vs ++ [.closeList])
  | .record [] => [.openRecord, .closeRecord]
  | .record ((k, v) :: fs) =>
    .openRecord :: .text (some k) :: .colon :: (v.tokens ++ fieldTokens fs ++ [.closeRecord])

/-- The lexemes of the items of a list after its first. -/
def itemTokens : List Value → List Token
  | [] => []
  | v :: vs => .comma :: (v.tokens ++ itemTokens vs)

/-- The lexemes of the fields of a record after its first. -/
def fieldTokens : List (String × Value) → List Token
  | [] => []
  | (k, v) :: fs => .comma :: .text (some k) :: .colon :: (v.tokens ++ fieldTokens fs)

end

/-! ## Scanning -/

/-- Bytes are cut into lexemes by as many steps as there are bytes, or more. -/
def Scans (bs : List UInt8) (ts : List Token) : Prop :=
  ∀ fuel, bs.length ≤ fuel → Token.scanFrom fuel bs = some ts

/-- The bytes that are lexemes on their own. -/
inductive Mark : UInt8 → Token → Prop where
  | comma : Mark 0x2C .comma
  | colon : Mark 0x3A .colon
  | openList : Mark 0x5B .openList
  | closeList : Mark 0x5D .closeList
  | openRecord : Mark 0x7B .openRecord
  | closeRecord : Mark 0x7D .closeRecord

theorem scans_nil : Scans [] [] := by
  intro fuel _
  cases fuel <;> rfl

theorem scan_of_scans {bs : List UInt8} {ts : List Token} (scans : Scans bs ts) :
    Token.scan bs = some ts :=
  scans bs.length (Nat.le_refl _)

namespace Scans

variable {bs : List UInt8} {ts : List Token} (scans : Scans bs ts)

include scans

theorem space {b : UInt8} (isSpace : Json.isSpace b) : Scans (b :: bs) ts := by
  intro fuel enough
  rw [List.length_cons] at enough
  cases fuel with
  | zero => cases enough
  | succ fuel =>
      rw [Token.scanFrom, if_pos isSpace]
      exact scans fuel (Nat.le_of_succ_le_succ enough)

omit scans in
theorem lexeme {b : UInt8} {rest : List UInt8} {t : Token} (solid : ¬ isSpace b)
    (cut : Token.cut (b :: bs) = some (t, rest)) (shorter : rest.length ≤ bs.length)
    (scans : Scans rest ts) : Scans (b :: bs) (t :: ts) := by
  intro fuel enough
  rw [List.length_cons] at enough
  cases fuel with
  | zero => cases enough
  | succ fuel =>
      have restEnough : rest.length ≤ fuel := by omega
      rw [Token.scanFrom, if_neg solid, cut]
      simp only [scans fuel restEnough, Option.map_some]

/-- A mark is a lexeme. -/
theorem mark {b : UInt8} {t : Token} (mark : Mark b t) : Scans (b :: bs) (t :: ts) := by
  cases mark <;> exact lexeme (by decide) rfl (Nat.le_refl _) scans

/-- A fresh line is white space. -/
theorem newLine (depth : Nat) : Scans (encode (Json.newLine depth) ++ bs) ts := by
  have spaces (n : Nat) : Scans (encode (List.replicate n ' ') ++ bs) ts := by
    induction n with
    | zero => exact scans
    | succ n ih => exact ih.space (b := 0x20) (by decide)
  exact (spaces (2 * depth)).space (b := 0x0A) (by decide)

end Scans

/-! ## Text in quotes -/

theorem pushBytes_pushBytes (front back : List UInt8)
    (cut : Option (Option (List UInt8) × List UInt8)) :
    pushBytes front (pushBytes back cut) = pushBytes (front ++ back) cut := by
  match cut with
  | none => rfl
  | some (none, _) => rfl
  | some (some contents, rest) => simp [pushBytes]

/-- A byte that stands for itself inside quotes. -/
def PlainByte (b : UInt8) : Prop := b ≠ 0x22 ∧ b ≠ 0x5C ∧ 0x20 ≤ b.toNat

theorem cutText_plain {front : List UInt8} (plain : ∀ b ∈ front, PlainByte b)
    (rest : List UInt8) :
    cutText none (front ++ rest) = pushBytes front (cutText none rest) := by
  induction front with
  | nil =>
      show cutText none rest = pushBytes [] (cutText none rest)
      rcases cutText none rest with _ | ⟨_ | contents, left⟩ <;> rfl
  | cons b front ih =>
      obtain ⟨⟨noQuote, noEscape, printed⟩, later⟩ := List.forall_mem_cons.mp plain
      have noControl : ¬ b < 0x20 := by
        rw [UInt8.lt_iff_toNat_lt]
        exact Nat.not_lt.mpr printed
      rw [List.cons_append, cutText.eq_def]
      simp only [noQuote, noEscape, noControl, if_false, ih later]
      exact pushBytes_pushBytes [b] front _

/-- A short escape is read as what it stands for. -/
theorem cutText_short {e y : UInt8} (notUnit : e ≠ 0x75) (short : shortEscape e = some y)
    (rest : List UInt8) :
    cutText none (0x5C :: e :: rest) = pushBytes [y] (cutText none rest) := by
  rw [cutText.eq_def]
  simp [notUnit, short, spoilAfter]

/-- Four hexadecimal digits are read as the character with their number. -/
theorem cutText_unit {a b c d : UInt8} {n : Nat} (unit : hexUnit a b c d = some n)
    (single : n < 0xD800) (rest : List UInt8) :
    cutText none (0x5C :: 0x75 :: a :: b :: c :: d :: rest) =
      pushBytes (encodeChar (Char.ofNat n)) (cutText none rest) := by
  have noLead : ¬ 0xD800 ≤ n := by omega
  have noTrail : ¬ 0xDC00 ≤ n := by omega
  rw [cutText.eq_def]
  simp [unit, noLead, noTrail, spoilAfter]

/-- A character that needs no escape is written in bytes that stand for themselves. -/
theorem plainByte_of_mem_encodeChar {c : Char} (noQuote : c ≠ '"') (noEscape : c ≠ '\\')
    (printed : ¬ c.toNat < 0x20) : ∀ b ∈ encodeChar c, PlainByte b := by
  have notQuote : c.toNat ≠ 0x22 := fun same => noQuote (Char.toNat_inj.mp same)
  have notEscape : c.toNat ≠ 0x5C := fun same => noEscape (Char.toNat_inj.mp same)
  have valid := Text.Utf8.isValidChar_toNat c
  have plain (n : Nat) (small : n < 0x100) (apart : n ≠ 0x22 ∧ n ≠ 0x5C ∧ 0x20 ≤ n) :
      PlainByte (UInt8.ofNat n) := by
    have value : (UInt8.ofNat n).toNat = n := by
      rw [UInt8.toNat_ofNat']
      exact Nat.mod_eq_of_lt small
    refine ⟨?_, ?_, ?_⟩
    · intro same
      rw [same] at value
      exact apart.1 value.symm
    · intro same
      rw [same] at value
      exact apart.2.1 value.symm
    · rw [value]
      exact apart.2.2
  rw [Text.Utf8.encodeChar_eq]
  split_ifs with one two three <;>
    simp only [List.forall_mem_cons, List.not_mem_nil, false_implies, implies_true, and_true]
  · exact plain _ (by omega) ⟨by omega, by omega, by omega⟩
  · exact ⟨plain _ (by omega) ⟨by omega, by omega, by omega⟩,
      plain _ (by omega) ⟨by omega, by omega, by omega⟩⟩
  · exact ⟨plain _ (by omega) ⟨by omega, by omega, by omega⟩,
      plain _ (by omega) ⟨by omega, by omega, by omega⟩,
      plain _ (by omega) ⟨by omega, by omega, by omega⟩⟩
  · exact ⟨plain _ (by omega) ⟨by omega, by omega, by omega⟩,
      plain _ (by omega) ⟨by omega, by omega, by omega⟩,
      plain _ (by omega) ⟨by omega, by omega, by omega⟩,
      plain _ (by omega) ⟨by omega, by omega, by omega⟩⟩

def digitByte (n : Nat) : UInt8 := UInt8.ofNat (Text.hexDigit n).toNat

/-- The hexadecimal digits of a control character are read as its number. -/
theorem hexUnit_of_control : ∀ n < 0x20,
    encode [Text.hexDigit (n / 16), Text.hexDigit (n % 16)] =
        [digitByte (n / 16), digitByte (n % 16)] ∧
      hexUnit 0x30 0x30 (digitByte (n / 16)) (digitByte (n % 16)) = some n := by
  decide

/-- A character is read as it was written, with an escape or without. -/
theorem cutText_escapeChar (c : Char) (rest : List UInt8) :
    cutText none (encode (escapeChar c) ++ rest) =
      pushBytes (encodeChar c) (cutText none rest) := by
  unfold escapeChar
  split_ifs with quote escape back feed line ret tab control
  · subst quote
    exact cutText_short (by decide) rfl rest
  · subst escape
    exact cutText_short (by decide) rfl rest
  · subst back
    exact cutText_short (by decide) rfl rest
  · subst feed
    exact cutText_short (by decide) rfl rest
  · subst line
    exact cutText_short (by decide) rfl rest
  · subst ret
    exact cutText_short (by decide) rfl rest
  · subst tab
    exact cutText_short (by decide) rfl rest
  · obtain ⟨digits, unit⟩ := hexUnit_of_control c.toNat control
    have written : encode ['\\', 'u', '0', '0', Text.hexDigit (c.toNat / 16),
        Text.hexDigit (c.toNat % 16)] =
          [0x5C, 0x75, 0x30, 0x30, digitByte (c.toNat / 16), digitByte (c.toNat % 16)] := by
      show encode (['\\', 'u', '0', '0'] ++ _) = _
      rw [Text.Utf8.encode_append, digits]
      rfl
    have single : c.toNat < 0xD800 := by omega
    rw [written]
    have read := cutText_unit unit single rest
    rwa [Char.ofNat_toNat] at read
  · have plain := plainByte_of_mem_encodeChar quote escape control
    have single : encode [c] = encodeChar c := by simp
    rw [single, cutText_plain plain]

/-- Characters are read as they were written, up to the closing quote. -/
theorem cutText_escaped (cs : List Char) (rest : List UInt8) :
    cutText none (encode (cs.flatMap escapeChar) ++ 0x22 :: rest) =
      some (some (encode cs), rest) := by
  induction cs with
  | nil =>
      show cutText none (0x22 :: rest) = some (some [], rest)
      rw [cutText.eq_def]
      rfl
  | cons c cs ih =>
      rw [List.flatMap_cons, Text.Utf8.encode_append, List.append_assoc, cutText_escapeChar, ih,
        Text.Utf8.encode_cons]
      rfl

theorem text?_encode (cs : List Char) :
    Text.Utf8.text? (encode cs) = some (String.ofList cs) := by
  have read : Text.Utf8.decode (encode cs) = .ok cs := (Text.Utf8.decode_eq_ok_iff _ _).mpr rfl
  rw [Text.Utf8.text?, read]

/-- A text in quotes is the lexeme of this text. -/
theorem Scans.quote {bs : List UInt8} {ts : List Token} (scans : Scans bs ts) (s : String) :
    Scans (encode (Json.quote s) ++ bs) (.text (some s) :: ts) := by
  have written : encode (Json.quote s) ++ bs =
      0x22 :: (encode (s.toList.flatMap escapeChar) ++ 0x22 :: bs) := by
    rw [Json.quote, Text.Utf8.encode_cons, Text.Utf8.encode_append, List.append_assoc,
      List.append_assoc]
    rfl
  have cut : Token.cut (0x22 :: (encode (s.toList.flatMap escapeChar) ++ 0x22 :: bs)) =
      some (.text (some s), bs) := by
    show (cutText none _).map _ = _
    rw [cutText_escaped, Option.map_some]
    simp only [Option.bind_some, text?_encode, String.ofList_toList]
  rw [written]
  refine Scans.lexeme (by decide) cut ?_ scans
  rw [List.length_append, List.length_cons]
  omega

/-! ## Numbers -/

/-- The digits of a number: at least one, and no zero in front of others. -/
structure Spells (ds : List UInt8) (n : Nat) : Prop where
  notEmpty : ds ≠ []
  digits : ∀ d ∈ ds, isDigit d = true
  value : ofDigits ds = n
  lead : ds.head? = some 0x30 → ds = [0x30]

/-- What may stand right behind a number: nothing that would belong to it. -/
def Stops (bs : List UInt8) : Prop :=
  ∀ b ∈ bs.head?, isDigit b = false ∧ b ≠ 0x2E ∧ b ≠ 0x65 ∧ b ≠ 0x45

theorem isDigit_digitByte : ∀ d < 10,
    encode [Nat.digitChar d] = [digitByte d] ∧ isDigit (digitByte d) = true ∧
      (digitByte d).toNat - 0x30 = d := by
  decide

theorem ofDigits_append_digit (ds : List UInt8) (d : UInt8) :
    ofDigits (ds ++ [d]) = ofDigits ds * 10 + (d.toNat - 0x30) := by
  simp [ofDigits]

/-- A number is written in digits that spell it. -/
theorem spells_toDigits (n : Nat) : Spells (encode (Nat.toDigits 10 n)) n := by
  induction n using Nat.strongRecOn with
  | ind n ih =>
      obtain ⟨last, digit, lastValue⟩ := isDigit_digitByte (n % 10) (Nat.mod_lt n (by decide))
      rcases Nat.lt_or_ge n 10 with small | large
      · have whole : n % 10 = n := Nat.mod_eq_of_lt small
        rw [whole] at last digit lastValue
        rw [Nat.toDigits_of_lt_base small, last]
        refine ⟨by simp, by simpa using digit, ?_, ?_⟩
        · simpa [ofDigits] using lastValue
        · intro zero
          simpa using zero
      · have front := ih (n / 10) (by omega)
        rw [Nat.toDigits_of_base_le (by decide) large, Text.Utf8.encode_append, last]
        refine ⟨by simp, ?_, ?_, ?_⟩
        · intro d among
          rcases List.mem_append.mp among with before | here
          · exact front.digits d before
          · rw [List.mem_singleton.mp here]
            exact digit
        · rw [ofDigits_append_digit, front.value, lastValue]
          omega
        · intro zero
          obtain ⟨d, ds, written⟩ := List.exists_cons_of_ne_nil front.notEmpty
          rw [written] at zero front
          have value := front.value
          rw [front.lead zero] at value
          have nothing : n / 10 = 0 := value.symm
          omega

section

variable {ds bs : List UInt8} {n : Nat} (spells : Spells ds n) (stops : Stops bs)

include spells stops

theorem takeWhile_isDigit : (ds ++ bs).takeWhile isDigit = ds := by
  rw [List.takeWhile_append_of_pos spells.digits]
  cases bs with
  | nil => simp
  | cons b bs =>
      have noDigit := (stops b rfl).1
      simp [noDigit]

theorem dropWhile_isDigit : (ds ++ bs).dropWhile isDigit = bs := by
  rw [List.dropWhile_append_of_pos spells.digits]
  cases bs with
  | nil => rfl
  | cons b bs =>
      have noDigit := (stops b rfl).1
      simp [noDigit]

theorem cutWhole_append : cutWhole (ds ++ bs) = some (ds, bs) := by
  rw [cutWhole, takeWhile_isDigit spells stops, dropWhile_isDigit spells stops]
  match ds, spells with
  | [], spells => exact absurd rfl spells.notEmpty
  | [_], _ => rfl
  | d :: e :: ds, spells =>
      have noZero : d ≠ 0x30 := by
        rintro rfl
        exact absurd (spells.lead rfl) (by simp)
      simp [noZero]

omit spells in
theorem cutFraction_of_stops : cutFraction bs = some (none, bs) := by
  unfold cutFraction
  split
  · exact absurd rfl (stops _ rfl).2.1
  · rfl

omit spells in
theorem cutExponent_of_stops : cutExponent bs = some (none, bs) := by
  cases bs with
  | nil => rfl
  | cons b bs =>
      obtain ⟨-, -, noSmall, noGreat⟩ := stops b rfl
      simp [cutExponent, noSmall, noGreat]

/-- Digits are read as the number that they spell. -/
theorem cutNumber_append : cutNumber (ds ++ bs) = some (.nat n, bs) := by
  have noSign : ∀ rest, ds ++ bs ≠ 0x2D :: rest := by
    intro rest same
    match ds, spells with
    | [], spells => exact absurd rfl spells.notEmpty
    | d :: ds, spells =>
        have front : d = 0x2D := (List.cons.inj same).1
        have digit := spells.digits d (by simp)
        rw [front] at digit
        exact absurd digit (by decide)
  unfold cutNumber
  split
  case h_1 negative left sign =>
    split at sign
    · rename_i same
      exact absurd same (noSign _)
    · cases sign
      simp [cutWhole_append spells stops, cutFraction_of_stops stops, cutExponent_of_stops stops,
        spells.value]

end

/-- A lexeme that starts with a digit is a number. -/
theorem cut_of_isDigit {d : UInt8} (digit : isDigit d = true) (bs : List UInt8) :
    Token.cut (d :: bs) = (cutNumber (d :: bs)).map fun r => (.number r.1, r.2) := by
  unfold Token.cut
  split
  case h_11 => rfl
  all_goals
    rename_i same
    cases same
    exact absurd digit (by decide)

/-- A number is one lexeme, if nothing behind it belongs to it. -/
theorem Scans.nat {bs : List UInt8} {ts : List Token} (scans : Scans bs ts) (stops : Stops bs)
    (n : Nat) : Scans (encode (Nat.toDigits 10 n) ++ bs) (.number (.nat n) :: ts) := by
  have spells := spells_toDigits n
  have cut := cutNumber_append spells stops
  cases written : encode (Nat.toDigits 10 n) with
  | nil => exact absurd written spells.notEmpty
  | cons d ds =>
      rw [written] at spells cut
      have digit := spells.digits d (by simp)
      have solid : ¬ isSpace d = true := by
        intro space
        simp only [isSpace, Bool.or_eq_true, decide_eq_true_eq] at space
        rcases space with ((rfl | rfl) | rfl) | rfl <;> exact absurd digit (by decide)
      have shorter : bs.length ≤ (ds ++ bs).length := by
        rw [List.length_append]
        omega
      rw [List.cons_append] at cut ⊢
      refine Scans.lexeme solid ?_ shorter scans
      rw [cut_of_isDigit digit, cut, Option.map_some]

/-! ## Values -/

theorem stops_nil : Stops [] := by
  intro b none
  cases none

theorem stops_newLine (depth : Nat) (bs : List UInt8) :
    Stops (encode (newLine depth) ++ bs) := by
  intro b front
  cases front
  decide

theorem stops_items (depth : Nat) (vs : List Value) {bs : List UInt8} (stops : Stops bs) :
    Stops (encode (prettyItems depth vs) ++ bs) := by
  cases vs with
  | nil => exact stops
  | cons v vs =>
      intro b front
      rw [prettyItems] at front
      cases front
      decide

theorem stops_fields (depth : Nat) (fs : List (String × Value)) {bs : List UInt8}
    (stops : Stops bs) : Stops (encode (prettyFields depth fs) ++ bs) := by
  cases fs with
  | nil => exact stops
  | cons f fs =>
      intro b front
      rw [prettyFields] at front
      cases front
      decide

-- The three statements speak of the text with anything behind it, so each hands what it has
-- cut to the next; only the number needs to know how that begins.
mutual

/-- A value is cut into its lexemes, whatever stands behind it. -/
theorem scans_value (v : Value) (depth : Nat) {bs : List UInt8} {ts : List Token}
    (stops : Stops bs) (scans : Scans bs ts) :
    Scans (encode (v.prettyAt depth) ++ bs) (v.tokens ++ ts) := by
  match v with
  | .null => exact Scans.lexeme (b := 0x6E) (by decide) rfl (by simp; omega) scans
  | .bool true => exact Scans.lexeme (b := 0x74) (by decide) rfl (by simp; omega) scans
  | .bool false => exact Scans.lexeme (b := 0x66) (by decide) rfl (by simp; omega) scans
  | .nat n => exact scans.nat stops n
  | .text s => exact scans.quote s
  | .list [] => exact (scans.mark .closeList).mark .openList
  | .list (v :: vs) =>
      have tail := stops_newLine depth (0x5D :: bs)
      have items := scans_items vs (depth + 1) tail ((scans.mark .closeList).newLine depth)
      have all := scans_value v (depth + 1) (stops_items (depth + 1) vs tail) items
      simp only [Value.prettyAt, Text.Utf8.encode_append, List.append_assoc]
      simp only [Value.tokens, List.cons_append, List.append_assoc]
      exact (all.newLine (depth + 1)).mark .openList
  | .record [] => exact (scans.mark .closeRecord).mark .openRecord
  | .record ((k, v) :: fs) =>
      have tail := stops_newLine depth (0x7D :: bs)
      have fields := scans_fields fs (depth + 1) tail ((scans.mark .closeRecord).newLine depth)
      have value := scans_value v (depth + 1) (stops_fields (depth + 1) fs tail) fields
      have key := ((value.space (b := 0x20) (by decide)).mark .colon).quote k
      simp only [Value.prettyAt, Text.Utf8.encode_append, List.append_assoc]
      simp only [Value.tokens, List.cons_append, List.append_assoc]
      exact (key.newLine (depth + 1)).mark .openRecord

/-- The items after the first are cut into their lexemes, whatever stands behind them. -/
theorem scans_items (vs : List Value) (depth : Nat) {bs : List UInt8} {ts : List Token}
    (stops : Stops bs) (scans : Scans bs ts) :
    Scans (encode (prettyItems depth vs) ++ bs) (itemTokens vs ++ ts) := by
  match vs with
  | [] => exact scans
  | v :: vs =>
      have items := scans_items vs depth stops scans
      have all := scans_value v depth (stops_items depth vs stops) items
      simp only [prettyItems, Text.Utf8.encode_append, List.append_assoc]
      simp only [itemTokens, List.cons_append, List.append_assoc]
      exact (all.newLine depth).mark .comma

/-- The fields after the first are cut into their lexemes, whatever stands behind them. -/
theorem scans_fields (fs : List (String × Value)) (depth : Nat) {bs : List UInt8}
    {ts : List Token} (stops : Stops bs) (scans : Scans bs ts) :
    Scans (encode (prettyFields depth fs) ++ bs) (fieldTokens fs ++ ts) := by
  match fs with
  | [] => exact scans
  | (k, v) :: fs =>
      have fields := scans_fields fs depth stops scans
      have value := scans_value v depth (stops_fields depth fs stops) fields
      have key := ((value.space (b := 0x20) (by decide)).mark .colon).quote k
      simp only [prettyFields, Text.Utf8.encode_append, List.append_assoc]
      simp only [fieldTokens, List.cons_append, List.append_assoc]
      exact (key.newLine depth).mark .comma

end

/-- The text of a value is cut into the lexemes of the value. -/
theorem scan_pretty (v : Value) : Token.scan (Text.Utf8.bytes v.pretty) = some v.tokens := by
  have scans := scans_value v 0 stops_nil scans_nil
  rw [List.append_nil, List.append_nil] at scans
  rw [Value.pretty, Text.Utf8.bytes, String.toList_ofList]
  exact scan_of_scans scans

end ShaderBundle.Json
