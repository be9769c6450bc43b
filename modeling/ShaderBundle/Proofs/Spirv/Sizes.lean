/-
# Proofs.Spirv.Sizes — declared sizes in unbounded numbers

The declared size of a structure is computed in words, with sums and products that stop at
the greatest word.  `HasSize` is the same size in numbers without a bound.  Where no type
contains itself, every structure has one (`exists_sizeBy`).

It makes no difference whether a sum stops on its way or at its end, so the size in words is the
unbounded one, cut off at the greatest word (`toNat_structSizeUpTo`) — with one exception.  For a
scalar or vector, bits are counted first and then divided by 8, and it is the bits that stop at
the greatest word.  A structure that ends in a vector of 2 ^ 32 bits or more (`EndsWide`) is
therefore given room for 2 ^ 29 - 1 bytes of it, which is too little, and need not be the greatest
word either (`wide_vector_comes_out_small`).  `structSize_saturates` says when this shows.
-/
import ShaderBundle.Proofs.Chain
import ShaderBundle.Proofs.Spirv.Prepare
import ShaderBundle.Spirv.Builder

namespace ShaderBundle.Spirv

set_option autoImplicit false

def greatestWord : Nat := UInt32.size - 1

namespace Tables

/-! ## Sums and products that stop -/

theorem toNat_addCapped (a b : UInt32) :
    (addCapped a b).toNat = min (a.toNat + b.toNat) greatestWord := by
  unfold addCapped greatestWord
  rw [UInt32.toNat_ofNat_of_lt']
  exact Nat.lt_of_le_of_lt (Nat.min_le_right _ _) (by decide)

theorem toNat_mulCapped (a b : UInt32) :
    (mulCapped a b).toNat = min (a.toNat * b.toNat) greatestWord := by
  unfold mulCapped greatestWord
  rw [UInt32.toNat_ofNat_of_lt']
  exact Nat.lt_of_le_of_lt (Nat.min_le_right _ _) (by decide)

/-- A sum may as well stop once, at its end. -/
theorem min_add_min (a b cap : Nat) : min (a + min b cap) cap = min (a + b) cap := by
  omega

/-! ## Unbounded sizes -/

inductive Ending where
  /-- It has no members. -/
  | nothing
  /-- An array or a matrix of so many bytes. -/
  | bytes (count : Nat)
  /-- A scalar or vector of so many bits. -/
  | bits (count : Nat)
  | struct (id : Id)
deriving DecidableEq

section

variable (t : Tables) (id : Id)

/-- What a structure ends in.  An array takes its stride for each element of its outermost
length, a matrix its stride for each column, or for each row if it is laid out by rows. -/
def ending : Ending :=
  match (t.typeOf id).members.getLast? with
  | none => .nothing
  | some memberType =>
    let member := t.typeOf memberType
    let matrixStride := t.memberDecoration id (t.lastIndex id) .matrixStride
    match member.array.getLast? with
    | some length => .bytes ((t.decoration memberType .arrayStride).toNat * length.toNat)
    | none =>
      if member.base = .struct then .struct memberType
      else if member.columns = 1 then .bits (member.vecsize.toNat * member.width.toNat)
      else .bytes (matrixStride.toNat * (t.strides id (t.lastIndex id) member).toNat)

/-- The offset of the last member of a structure. -/
def lastOffset : Nat := (t.memberDecoration id (t.lastIndex id) .offset).toNat

/-- The structure that a structure ends in. -/
def endStruct? : Option Id :=
  match t.ending id with
  | .struct inner => some inner
  | _ => none

end

/-- The size of a structure, if `bytesOf` says how many bytes some bits take. -/
inductive SizeBy (t : Tables) (bytesOf : Nat → Nat) : Id → Nat → Prop where
  | nothing {id : Id} : t.ending id = .nothing → SizeBy t bytesOf id 0
  | bytes {id : Id} {count : Nat} : t.ending id = .bytes count →
      SizeBy t bytesOf id (t.lastOffset id + count)
  | bits {id : Id} {count : Nat} : t.ending id = .bits count →
      SizeBy t bytesOf id (t.lastOffset id + bytesOf count)
  | struct {id inner : Id} {size : Nat} : t.ending id = .struct inner →
      SizeBy t bytesOf inner size → SizeBy t bytesOf id (t.lastOffset id + size)

/-- The size of a structure in unbounded numbers. -/
def HasSize (t : Tables) : Id → Nat → Prop := t.SizeBy fun bits => bits / 8

/-- A structure ends in a vector of more bits than the greatest word, maybe inside of structures
that it ends in; so many bytes stand before the vector. -/
inductive EndsWide (t : Tables) : Id → Nat → Nat → Prop where
  | bits {id : Id} {count : Nat} : t.ending id = .bits count → greatestWord < count →
      EndsWide t id (t.lastOffset id) count
  | struct {id inner : Id} {before count : Nat} : t.ending id = .struct inner →
      EndsWide t inner before count → EndsWide t id (t.lastOffset id + before) count

/-- A type is among the members of another. -/
def Contains (t : Tables) (id member : Id) : Prop := member ∈ (t.typeOf id).members

section

variable {t : Tables} {bytesOf bytesOf' : Nat → Nat} {id : Id}

theorem contains_of_endStruct? {inner : Id} (ends : t.endStruct? id = some inner) :
    t.Contains id inner := by
  unfold endStruct? ending at ends
  cases last : (t.typeOf id).members.getLast? with
  | none => simp [last] at ends
  | some memberType =>
      cases array : (t.typeOf memberType).array.getLast? with
      | some length => simp [last, array] at ends
      | none =>
          simp only [last, array] at ends
          split_ifs at ends with struct column
          cases ends
          exact List.mem_of_getLast? last

theorem mem_keys_of_contains {member : Id} (contains : t.Contains id member) :
    id ∈ t.types.keys := by
  unfold Contains typeOf at contains
  cases found : t.types.find? id with
  | none =>
      rw [found] at contains
      cases contains
  | some type => exact Table.mem_keys_of_find?_eq_some found

/-- Where no type contains itself, structures that end in structures come to an end. -/
theorem endsWithin_of_noCycle (noCycle : NoCycle t.Contains) (id : Id) :
    EndsWithin t.endStruct? t.types.entries.length id := by
  have keys : t.types.keys.length = t.types.entries.length := List.length_map _
  rw [← keys]
  exact ShaderBundle.endsWithin_of_noCycle (noCycle.mono fun _ _ => contains_of_endStruct?)
    (fun _ _ ends => mem_keys_of_contains (contains_of_endStruct? ends)) id

theorem exists_sizeBy (bytesOf : Nat → Nat) {n : Nat} (ends : EndsWithin t.endStruct? n id) :
    ∃ size, t.SizeBy bytesOf id size := by
  induction ends with
  | @done _ id last =>
      unfold endStruct? at last
      cases ending : t.ending id with
      | nothing => exact ⟨_, .nothing ending⟩
      | bytes count => exact ⟨_, .bytes ending⟩
      | bits count => exact ⟨_, .bits ending⟩
      | struct inner => simp [ending] at last
  | @link _ id inner goes _ ih =>
      obtain ⟨size, sized⟩ := ih
      have ending : t.ending id = .struct inner := by
        unfold endStruct? at goes
        split at goes
        · rename_i ending
          rw [ending, Option.some.inj goes]
        · cases goes
      exact ⟨_, .struct ending sized⟩

theorem SizeBy.unique {size size' : Nat} (sized : t.SizeBy bytesOf id size)
    (sized' : t.SizeBy bytesOf id size') : size = size' := by
  induction sized generalizing size' with
  | nothing ending | bytes ending | bits ending =>
      cases sized' with
      | nothing ending' | bytes ending' | bits ending' | struct ending' _ =>
          cases ending.symm.trans ending'
          try rfl
  | struct ending _ ih =>
      cases sized' with
      | nothing ending' | bytes ending' | bits ending' => cases ending.symm.trans ending'
      | struct ending' sized' =>
          cases ending.symm.trans ending'
          rw [ih sized']

/-- How many bytes bits take matters for bits at the end of a structure only. -/
theorem SizeBy.congr {size : Nat} (sized : t.SizeBy bytesOf id size)
    (same : ∀ bits ≤ greatestWord, bytesOf' bits = bytesOf bits)
    (narrow : ∀ before bits, ¬ t.EndsWide id before bits) : t.SizeBy bytesOf' id size := by
  induction sized with
  | nothing ending => exact .nothing ending
  | bytes ending => exact .bytes ending
  | @bits _ count ending =>
      have fits : count ≤ greatestWord := by
        by_contra wide
        exact narrow _ _ (.bits ending (Nat.lt_of_not_le wide))
      rw [← same count fits]
      exact .bits ending
  | struct ending _ ih =>
      exact .struct ending (ih fun before bits wide => narrow _ _ (.struct ending wide))

theorem EndsWide.sizeBy {before bits : Nat} (wide : t.EndsWide id before bits)
    (bytesOf : Nat → Nat) : t.SizeBy bytesOf id (before + bytesOf bits) := by
  induction wide with
  | bits ending _ => exact .bits ending
  | struct ending _ ih =>
      rw [Nat.add_assoc]
      exact .struct ending ih

theorem EndsWide.greatestWord_lt {before bits : Nat} (wide : t.EndsWide id before bits) :
    greatestWord < bits := by
  induction wide with
  | bits _ wide => exact wide
  | struct _ _ ih => exact ih

/-! ## Sizes in words -/

/-- The bytes of bits that stop at the greatest word. -/
def cappedBytes (bits : Nat) : Nat := min bits greatestWord / 8

/-- What one step of the size computation comes to. -/
theorem toNat_structSizeUpTo_succ (t : Tables) (fuel : Nat) (id : Id) :
    (t.structSizeUpTo (fuel + 1) id).toNat =
      match t.ending id with
      | .nothing => 0
      | .bytes count => min (t.lastOffset id + count) greatestWord
      | .bits count => min (t.lastOffset id + cappedBytes count) greatestWord
      | .struct inner => min (t.lastOffset id + (t.structSizeUpTo fuel inner).toNat) greatestWord := by
  rw [structSizeUpTo_succ]
  unfold ending lastOffset
  cases (t.typeOf id).members.getLast? with
  | none => rfl
  | some memberType =>
      dsimp only
      rw [toNat_addCapped]
      cases (t.typeOf memberType).array.getLast? with
      | some length =>
          dsimp only
          rw [toNat_mulCapped, min_add_min]
      | none =>
          dsimp only
          split_ifs with struct column
          · rfl
          · rw [UInt32.toNat_div, toNat_mulCapped]
            rfl
          · rw [toNat_mulCapped, min_add_min]

/-- **A size in words is the unbounded one, cut off at the greatest word**, if bits stop there
before they are divided. -/
theorem toNat_structSizeUpTo {size n fuel : Nat} (sized : t.SizeBy cappedBytes id size)
    (ends : EndsWithin t.endStruct? n id) (enough : n < fuel) :
    (t.structSizeUpTo fuel id).toNat = min size greatestWord := by
  induction sized generalizing n fuel with
  | nothing ending | bytes ending | bits ending =>
      obtain ⟨fuel, rfl⟩ := Nat.exists_eq_succ_of_ne_zero (Nat.ne_zero_of_lt enough)
      rw [toNat_structSizeUpTo_succ, ending]
      try rfl
  | @struct id inner size ending _ ih =>
      obtain ⟨fuel, rfl⟩ := Nat.exists_eq_succ_of_ne_zero (Nat.ne_zero_of_lt enough)
      have goes : t.endStruct? id = some inner := by rw [endStruct?, ending]
      rw [toNat_structSizeUpTo_succ, ending]
      cases ends with
      | done last => cases goes.symm.trans last
      | link goes' ends =>
          cases goes.symm.trans goes'
          dsimp only
          rw [ih ends (Nat.lt_of_succ_lt_succ enough), min_add_min]

theorem toNat_structSize (noCycle : NoCycle t.Contains) {size : Nat}
    (sized : t.SizeBy cappedBytes id size) : (t.structSize id).toNat = min size greatestWord :=
  toNat_structSizeUpTo sized (endsWithin_of_noCycle noCycle id) (Nat.lt_succ_self _)

/-- Where members stand before the types that they are members of, no type contains itself. -/
theorem below_of_entries
    (below : t.types.entries.all fun e => e.2.members.all fun m => m.toNat < e.1.toNat) (id : Id) :
    ∀ member ∈ (t.typeOf id).members, member.toNat < id.toNat := by
  simp only [List.all_eq_true, decide_eq_true_eq] at below
  intro member isMember
  unfold Tables.typeOf Table.find? at isMember
  cases found : t.types.entries.find? fun e => e.1 = id with
  | none =>
      rw [found] at isMember
      cases isMember
  | some e =>
      rw [found] at isMember
      have own : e.1 = id := by simpa using List.find?_some found
      exact own ▸ below e (List.mem_of_find?_eq_some found) member isMember

theorem noCycle_of_entries
    (below : t.types.entries.all fun e => e.2.members.all fun m => m.toNat < e.1.toNat) :
    NoCycle t.Contains :=
  noCycle_of_below UInt32.toNat fun id => below_of_entries below id

end

end Tables

/-! ## Shaders -/

/-- How the declared size of a structure is related to its size in unbounded numbers. -/
structure Saturates (s : ModuleShader) (id : Id) : Prop where
  size : ∃! size, s.tables.HasSize id size
  /-- The size stops at the greatest word, unless the structure ends in a vector whose bits
  exceed that while its bytes, counted from bits that stop there, do not. -/
  exact_iff : ∀ size, s.tables.HasSize id size →
    ((Shader.structSize s id).toNat = min size greatestWord ↔
      ∀ before bits, s.tables.EndsWide id before bits → greatestWord ≤ before + greatestWord / 8)
  /-- Such a vector is given room for an eighth of the greatest word. -/
  wide : ∀ before bits, s.tables.EndsWide id before bits →
    s.tables.HasSize id (before + bits / 8) ∧
      (Shader.structSize s id).toNat = min (before + greatestWord / 8) greatestWord

/-- **Declared sizes stop at the greatest word.**  Only a structure that ends in a vector of more
bits than that may come out too small, and it does exactly if what stands before the vector leaves
room for an eighth of the greatest word. -/
theorem structSize_saturates (s : ModuleShader) (noCycle : NoCycle s.tables.Contains) (id : Id) :
    Saturates s id := by
  obtain ⟨size, sized⟩ := Tables.exists_sizeBy (fun bits => bits / 8)
    (Tables.endsWithin_of_noCycle noCycle id)
  have wide : ∀ before bits, s.tables.EndsWide id before bits →
      s.tables.HasSize id (before + bits / 8) ∧
        (Shader.structSize s id).toNat = min (before + greatestWord / 8) greatestWord := by
    intro before bits wide
    have many := wide.greatestWord_lt
    have inWords := Tables.toNat_structSize noCycle (wide.sizeBy Tables.cappedBytes)
    rw [Tables.cappedBytes, Nat.min_eq_right (Nat.le_of_lt many)] at inWords
    exact ⟨wide.sizeBy _, inWords⟩
  refine ⟨⟨size, sized, fun other sized' => sized'.unique sized⟩, ?_, wide⟩
  intro size sized
  constructor
  · intro stops before bits isWide
    have many := isWide.greatestWord_lt
    obtain ⟨whole, short⟩ := wide before bits isWide
    rw [sized.unique whole, short] at stops
    unfold greatestWord UInt32.size at *
    omega
  · intro room
    by_cases isWide : ∃ before bits, s.tables.EndsWide id before bits
    · obtain ⟨before, bits, isWide⟩ := isWide
      have many := isWide.greatestWord_lt
      have full := room before bits isWide
      obtain ⟨whole, short⟩ := wide before bits isWide
      rw [sized.unique whole, short]
      omega
    · have narrow : ∀ before bits, ¬ s.tables.EndsWide id before bits :=
        fun before bits isWide' => isWide ⟨before, bits, isWide'⟩
      refine Tables.toNat_structSize noCycle (sized.congr ?_ narrow)
      intro bits few
      rw [Tables.cappedBytes, Nat.min_eq_left few]

def shaderOf (m : Module) : ModuleShader :=
  (ModuleShader.ofModule m).toOption.getD ⟨.empty, .empty⟩

/-- A module of a fragment shader whose block ends in another structure, and that one in a matrix
of two columns and four rows, laid out by rows.  The offsets come close to the greatest word. -/
def deepModule : Module :=
  let steps : Builder.Build Unit := do
    let column ← Builder.vec 4
    let matrix ← Builder.addGlobal .opTypeMatrix none [.id column, .word 2]
    let inner ← Builder.addGlobal .opTypeStruct none [.id column, .id matrix]
    Builder.decorateMember inner 1 .offset 16
    Builder.decorateMember inner 1 .matrixStride 16
    Builder.annotate (.plain .opMemberDecorate [.id inner, .word 1, .decoration .rowMajor])
    let _ ← Builder.uniformBlock "deep" [⟨"tint", column, 0⟩, ⟨"turn", inner, 0xFFFFFFF0⟩] 0 0
  (steps.run (.start .fragment)).2.finish "main"

/-- The block takes the offset of the inner structure, the offset of the matrix in it and four
rows, which is more than the greatest word. -/
theorem structSize_saturates_deep :
    ModuleShader.ofModule deepModule = .ok (shaderOf deepModule) ∧
      NoCycle (shaderOf deepModule).tables.Contains ∧
      (shaderOf deepModule).tables.HasSize 5 (0xFFFFFFF0 + (16 + 16 * 4)) ∧
      (Shader.structSize (shaderOf deepModule) 5).toNat = greatestWord := by
  have accepted : ModuleShader.ofModule deepModule = .ok (shaderOf deepModule) := by
    decide +kernel
  have noCycle : NoCycle (shaderOf deepModule).tables.Contains :=
    Tables.noCycle_of_entries (by decide +kernel)
  have outer : (shaderOf deepModule).tables.ending 5 = .struct 4 := by decide +kernel
  have inner : (shaderOf deepModule).tables.ending 4 = .bytes (16 * 4) := by decide +kernel
  have offset : (shaderOf deepModule).tables.lastOffset 5 = 0xFFFFFFF0 := by decide +kernel
  have innerOffset : (shaderOf deepModule).tables.lastOffset 4 = 16 := by decide +kernel
  have sized : (shaderOf deepModule).tables.HasSize 5 (0xFFFFFFF0 + (16 + 16 * 4)) := by
    rw [← offset, ← innerOffset]
    exact .struct outer (.bytes inner)
  have stops := (structSize_saturates (shaderOf deepModule) noCycle 5).exact_iff _ sized
  refine ⟨accepted, noCycle, sized, (stops.mpr ?_).trans (by decide)⟩
  intro before bits wide
  cases wide with
  | bits ending => cases outer.symm.trans ending
  | struct ending wide =>
      cases outer.symm.trans ending
      cases wide with
      | bits ending | struct ending _ => cases inner.symm.trans ending

/-- A module of a fragment shader whose block is one vector of 2 ^ 28 floats. -/
def wideModule : Module :=
  let steps : Builder.Build Unit := do
    let lanes ← Builder.vec 0x10000000
    let _ ← Builder.uniformBlock "params" [⟨"lanes", lanes, 0⟩] 0 0
  (steps.run (.start .fragment)).2.finish "main"

/-- A size that is less than the greatest word need not be the whole size. -/
theorem wide_vector_comes_out_small :
    ¬ ∀ (m : Module) (s : ModuleShader), ModuleShader.ofModule m = .ok s →
      NoCycle s.tables.Contains → ∀ id size, s.tables.HasSize id size →
        (Shader.structSize s id).toNat = min size greatestWord := by
  intro always
  have accepted : ModuleShader.ofModule wideModule = .ok (shaderOf wideModule) := by
    decide +kernel
  have noCycle : NoCycle (shaderOf wideModule).tables.Contains :=
    Tables.noCycle_of_entries (by decide +kernel)
  have ending : (shaderOf wideModule).tables.ending 3 = .bits (0x10000000 * 32) := by
    decide +kernel
  have stops := always _ _ accepted noCycle 3 _ (.bits ending)
  have short : (Shader.structSize (shaderOf wideModule) 3).toNat = 536870911 := by decide +kernel
  have offset : (shaderOf wideModule).tables.lastOffset 3 = 0 := by decide +kernel
  rw [short, offset] at stops
  exact absurd stops (by decide)

end ShaderBundle.Spirv
