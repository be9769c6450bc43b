/-
# Proofs.Record.Truncation — what a reader does when bytes are missing

A reader takes bytes from the front and never looks past what it takes.  So as long as it
does not run out of bytes, bytes behind the input change neither its answer nor what it
takes: they are still there afterwards (`Steady`).  That is kept by every way of putting
readers together, and `read` is put together from steady readers (`read_steady`).

A record that was cut off anywhere is therefore recognised, and by nothing else than that it
ended too early.  A record has at least the bytes of its front and of its counts
(`length_format_ge`), so a stream has an end: `readStream` reads as the records themselves
say (`Drains`), and its bound on the attempts never cuts it short.
-/
import Mathlib.Data.List.Infix
import ShaderBundle.Proofs.Record.Format

namespace ShaderBundle.Record

set_option autoImplicit false

variable {α β : Type}

/-! ## Answers -/

/-- What a reader answers: a value or an error, and the bytes that are left. -/
abbrev Answer (α : Type) : Type := EStateM.Result ReadError (List UInt8) α

namespace Answer

def rest : Answer α → List UInt8
  | .ok _ bs => bs
  | .error _ bs => bs

/-- The same answer with more bytes left behind it. -/
def followedBy (t : List UInt8) : Answer α → Answer α
  | .ok a bs => .ok a (bs ++ t)
  | .error e bs => .error e (bs ++ t)

/-- The reader ran out of bytes. -/
def RanOut (answer : Answer α) : Prop := ∃ bs, answer = .error .ended bs

theorem not_ranOut_ok (a : α) (bs : List UInt8) : ¬ RanOut (.ok a bs : Answer α) := by
  rintro ⟨_, same⟩
  cases same

end Answer

open Answer

/-- A reader leaves a suffix of its input, and unless it runs out of bytes, bytes behind the
input change nothing but that they are left as well. -/
structure Steady (r : Reader α) : Prop where
  leaves_suffix : ∀ bs, rest (r bs) <:+ bs
  append : ∀ bs t, ¬ RanOut (r bs) → r (bs ++ t) = followedBy t (r bs)

/-! ## Steps -/

theorem steady_pure (a : α) : Steady (pure a : Reader α) where
  leaves_suffix := List.suffix_refl
  append _ _ _ := rfl

theorem steady_throw (e : ReadError) : Steady (throw e : Reader α) where
  leaves_suffix := List.suffix_refl
  append _ _ _ := rfl

theorem bind_of_ok {r : Reader α} {bs mid : List UInt8} {a : α} (first : r bs = .ok a mid)
    (f : α → Reader β) : (r >>= f) bs = f a mid := by
  show EStateM.bind r f bs = _
  rw [EStateM.bind, first]

theorem bind_of_error {r : Reader α} {bs mid : List UInt8} {e : ReadError}
    (first : r bs = .error e mid) (f : α → Reader β) : (r >>= f) bs = .error e mid := by
  show EStateM.bind r f bs = _
  rw [EStateM.bind, first]

/-- One steady reader after another is steady. -/
theorem Steady.bind {r : Reader α} {f : α → Reader β} (first : Steady r)
    (next : ∀ a, Steady (f a)) : Steady (r >>= f) where
  leaves_suffix bs := by
    have left := first.leaves_suffix bs
    cases answer : r bs with
    | ok a mid =>
        rw [answer] at left
        rw [bind_of_ok answer]
        exact ((next a).leaves_suffix mid).trans left
    | error e mid =>
        rw [answer] at left
        rw [bind_of_error answer]
        exact left
  append bs t := by
    have more := first.append bs t
    cases answer : r bs with
    | ok a mid =>
        rw [answer] at more
        have moved : r (bs ++ t) = .ok a (mid ++ t) := more (not_ranOut_ok a mid)
        rw [bind_of_ok answer, bind_of_ok moved]
        exact (next a).append mid t
    | error e mid =>
        rw [answer] at more
        rw [bind_of_error answer]
        intro enough
        -- the second reader is not reached, whatever follows
        have moved : r (bs ++ t) = .error e (mid ++ t) := by
          refine more ?_
          rintro ⟨_, same⟩
          cases same
          exact enough ⟨mid, rfl⟩
        rw [bind_of_error moved]
        rfl

theorem take_steady (n : Nat) : Steady (take n) where
  leaves_suffix bs := by
    unfold take
    split
    · exact List.suffix_refl bs
    · exact List.drop_suffix n bs
  append bs t := by
    unfold take
    split
    · exact fun enough => absurd ⟨bs, rfl⟩ enough
    · rename_i long
      intro _
      have longer : ¬ (bs ++ t).length < n := by
        rw [List.length_append]
        omega
      have inFront : n ≤ bs.length := Nat.not_lt.mp long
      rw [if_neg longer, List.take_append_of_le_length inFront,
        List.drop_append_of_le_length inFront]
      rfl

theorem byte_steady : Steady byte where
  leaves_suffix bs := by
    cases bs with
    | nil => exact List.suffix_refl []
    | cons b bs => exact List.suffix_cons b bs
  append bs t := by
    cases bs with
    | nil => exact fun enough => absurd ⟨[], rfl⟩ enough
    | cons b bs => exact fun _ => rfl

theorem word_steady : Steady word where
  leaves_suffix bs := by
    match bs with
    | [] => exact List.suffix_refl []
    | [a] => exact List.suffix_refl [a]
    | a :: b :: bs => exact (List.suffix_cons b bs).trans (List.suffix_cons a (b :: bs))
  append bs t := by
    match bs with
    | [] => exact fun enough => absurd ⟨[], rfl⟩ enough
    | [a] => exact fun enough => absurd ⟨[a], rfl⟩ enough
    | a :: b :: bs => exact fun _ => rfl

theorem text_steady : Steady text := by
  unfold text
  refine word_steady.bind fun n => (take_steady n).bind fun bs => ?_
  cases Text.Utf8.decode bs with
  | ok cs => exact steady_pure _
  | error fault => exact steady_throw _

theorem choice_steady (role : String) (ofByte? : UInt8 → Option α) :
    Steady (choice role ofByte?) := by
  unfold choice
  refine byte_steady.bind fun b => ?_
  cases ofByte? b with
  | some a => exact steady_pure a
  | none => exact steady_throw _

theorem Steady.times {item : Reader α} (each : Steady item) (n : Nat) : Steady (times item n) := by
  induction n with
  | zero => exact steady_pure []
  | succ n ih => exact each.bind fun a => ih.bind fun as => steady_pure (a :: as)

theorem Steady.listOf {item : Reader α} (each : Steady item) : Steady (listOf item) :=
  word_steady.bind each.times

/-! ## Records -/

theorem attributeItem_steady : Steady attributeItem :=
  text_steady.bind fun _ => word_steady.bind fun _ => text_steady.bind fun _ =>
    byte_steady.bind fun _ => steady_pure _

theorem uniformItem_steady : Steady uniformItem :=
  text_steady.bind fun _ => (choice_steady _ _).bind fun _ => word_steady.bind fun _ =>
    word_steady.bind fun _ => steady_pure _

theorem imageItem_steady : Steady imageItem :=
  text_steady.bind fun _ => word_steady.bind fun _ => (choice_steady _ _).bind fun _ =>
    (choice_steady _ _).bind fun _ => steady_pure _

theorem front_steady : Steady front := by
  unfold front
  refine (take_steady 4).bind fun found => ?_
  have versioned : Steady (do
      let found ← word
      if found ≠ version then throw (.badVersion found) else pure () : Reader Unit) := by
    refine word_steady.bind fun found => ?_
    split
    · exact steady_throw _
    · exact steady_pure ()
  dsimp only
  split
  · exact (steady_throw _).bind fun _ => versioned
  · exact versioned

theorem read_steady : Steady read :=
  front_steady.bind fun _ => (choice_steady _ _).bind fun _ => text_steady.bind fun _ =>
    attributeItem_steady.listOf.bind fun _ => attributeItem_steady.listOf.bind fun _ =>
    uniformItem_steady.listOf.listOf.bind fun _ => imageItem_steady.listOf.bind fun _ =>
    steady_pure _

/-- The front and the counts alone are 17 bytes. -/
theorem length_format_ge (r : Record) : 17 ≤ (format r).length := by
  simp only [format, textBytes, countedBytes, wordBytes, List.length_append, List.length_cons,
    List.length_nil]
  omega

theorem length_of_read {bs left : List UInt8} {r : Record} (ended : read bs = .ok r left) :
    left.length + 17 ≤ bs.length := by
  obtain ⟨-, rfl⟩ := (read_eq_ok_iff bs r left).mp ended
  have := length_format_ge r
  rw [List.length_append]
  omega

/-- A record that was cut off ends too early. -/
theorem ranOut_of_cut {front missing : List UInt8} {r : Record} (cut : missing ≠ [])
    (whole : read (front ++ missing) = .ok r []) : RanOut (read front) := by
  by_contra enough
  have same := read_steady.append front missing enough
  rw [whole] at same
  -- the answer to the front would leave what is missing
  cases answer : read front with
  | ok s left =>
      rw [answer] at same
      injection same with _ nothing
      exact cut (List.append_eq_nil_iff.mp nothing.symm).2
  | error e left =>
      rw [answer] at same
      cases same

/-! ## Streams -/

/-- The answers on the way through the bytes: record after record, until nothing is left or
one cannot be read. -/
inductive Drains : List UInt8 → List (Except ReadError Record × List UInt8) → Prop where
  | failed {bs left : List UInt8} {e : ReadError} :
      read bs = .error e left → Drains bs [(.error e, left)]
  | last {bs : List UInt8} {r : Record} : read bs = .ok r [] → Drains bs [(.ok r, [])]
  | more {bs left : List UInt8} {r : Record} {later : List (Except ReadError Record × List UInt8)} :
      read bs = .ok r left → left ≠ [] → Drains left later → Drains bs ((.ok r, left) :: later)

/-- More attempts than bytes are enough, and most of them are not used. -/
theorem readUpTo_drains (attempts : Nat) (bs : List UInt8) (enough : bs.length < attempts) :
    Drains bs (readUpTo attempts bs) ∧ 17 * (readUpTo attempts bs).length ≤ bs.length + 17 := by
  induction attempts generalizing bs with
  | zero => exact absurd enough (Nat.not_lt_zero _)
  | succ attempts ih =>
      unfold readUpTo
      cases answer : read bs with
      | error e left => exact ⟨.failed answer, by simp⟩
      | ok r left =>
          have shorter := length_of_read answer
          by_cases done : left = []
          · subst done
            exact ⟨.last answer, by simp⟩
          · obtain ⟨drains, few⟩ := ih left (by omega)
            simp only [if_neg done]
            refine ⟨.more answer done drains, ?_⟩
            rw [List.length_cons]
            omega

/-- **Reading never looks past what it takes.**  Bytes behind the input change nothing unless
it ended too early, a record that was cut off is always recognised by that, what is left is a
suffix of the input, and since a record takes at least 17 bytes every stream has an end. -/
theorem read_never_looks_ahead :
    (∀ bs t, ¬ RanOut (read bs) → read (bs ++ t) = followedBy t (read bs)) ∧
      (∀ front missing r, missing ≠ [] → read (front ++ missing) = .ok r [] →
        RanOut (read front)) ∧
      (∀ bs, rest (read bs) <:+ bs) ∧
      (∀ bs r left, read bs = .ok r left → left.length + 17 ≤ bs.length) ∧
      ∀ bs, Drains bs (readStream bs) ∧ 17 * (readStream bs).length ≤ bs.length + 17 := by
  refine ⟨read_steady.append, fun _ _ _ => ranOut_of_cut, read_steady.leaves_suffix,
    fun _ _ _ => length_of_read, ?_⟩
  intro bs
  exact readUpTo_drains (bs.length + 1) bs (Nat.lt_succ_self _)

/-- A record and the first byte of another, and the record without its last bytes. -/
theorem read_never_looks_ahead_scattered :
    (¬ RanOut (read (format scattered)) ∧
        read (format scattered ++ [0x53]) = .ok scattered [0x53]) ∧
      (read ((format scattered).take 60 ++ (format scattered).drop 60) = .ok scattered [] ∧
        RanOut (read ((format scattered).take 60))) ∧
      Drains (format scattered ++ [0x53]) [(.ok scattered, [0x53]), (.error .ended, [0x53])] := by
  have within : WithinWidths scattered := (write_fault_eq_none_iff scattered).mp (by decide)
  have whole : read (format scattered) = .ok scattered [] :=
    (read_eq_ok_iff _ _ _).mpr ⟨within, (List.append_nil _).symm⟩
  have enough : ¬ RanOut (read (format scattered)) := by
    rw [whole]
    exact not_ranOut_ok _ _
  obtain ⟨more, fewer, -, -, ends⟩ := read_never_looks_ahead
  have longer : read (format scattered ++ [0x53]) = .ok scattered [0x53] := by
    rw [more _ _ enough, whole]
    rfl
  have put : read ((format scattered).take 60 ++ (format scattered).drop 60) = .ok scattered [] := by
    rw [List.take_append_drop, whole]
  refine ⟨⟨enough, longer⟩, ⟨put, fewer _ _ _ (by decide) put⟩, ?_⟩
  have answers : readStream (format scattered ++ [0x53]) =
      [(.ok scattered, [0x53]), (.error .ended, [0x53])] := by
    rw [readStream, List.length_append, readUpTo, longer]
    rfl
  rw [← answers]
  exact (ends _).1

end ShaderBundle.Record
