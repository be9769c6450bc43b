/-
# Proofs.FileTree — what was written last is read

Writing puts a file where no directory is.  So the directories stay, a path leads where it led
before, and the file that was written is read back (`read_write_self`); another file is read
as before, unless both paths lead to one place (`Apart`, `read_write_of_apart`).

Files of different names in one directory are apart (`apart_join`), and so are paths that end
in different names at all (`apart_of_endsIn`).  This is a matter of the names along a path:
below a directory, a text without a slash is one more name at the end (`Path.names_join`).

Many writes go one after the other (`writeAll`), and a path then holds what was written to it
last (`LastWrite`, `read_of_lastWrite`).  Where nothing was written there is what was there
before (`node?_writeAll`), and making directories adds directories only
(`moreDirectories_of_createDirAll`).
-/
import ShaderBundle.FileTree
import Mathlib.Tactic.SplitIfs

namespace ShaderBundle

set_option autoImplicit false

/-! ## Names along a path -/

namespace Path

theorem parts_ne_nil (cs : List Char) : parts cs ≠ [] := by
  cases cs with
  | nil => simp [parts]
  | cons c rest =>
      unfold parts
      split_ifs
      · simp
      · cases parts rest <;> simp

theorem parts_append_slash (front back : List Char) :
    parts (front ++ '/' :: back) = parts front ++ parts back := by
  induction front with
  | nil => simp [parts]
  | cons c front ih =>
      rw [List.cons_append, parts, parts, ih]
      split_ifs with slash
      · rfl
      · cases split : parts front with
        | nil => exact absurd split (parts_ne_nil front)
        | cons p ps => rfl

theorem parts_of_flat {cs : List Char} (flat : '/' ∉ cs) : parts cs = [cs] := by
  induction cs with
  | nil => rfl
  | cons c cs ih =>
      rw [List.mem_cons, not_or] at flat
      rw [parts, if_neg (Ne.symm flat.1), ih flat.2]

/-- A text that names one thing in a directory. -/
structure IsEntry (name : String) : Prop where
  flat : '/' ∉ name.toList
  notEmpty : name.toList ≠ []
  notDot : name.toList ≠ ['.']
  notUp : name.toList ≠ ['.', '.']

theorem IsEntry.ne_up {name : String} (entry : IsEntry name) : name ≠ ".." :=
  fun same => entry.notUp (by rw [same]; rfl)

theorem isEntry_of_long {name : String} (flat : '/' ∉ name.toList)
    (long : 2 < name.toList.length) : IsEntry name := by
  refine ⟨flat, ?_, ?_, ?_⟩ <;> intro short <;> rw [short] at long <;> simp at long

/-- The last part of a path, slashes aside, if the text has none itself. -/
def EndsIn (part : List Char) (p : String) : Prop :=
  p.toList = part ∨ ∃ front, p.toList = front ++ '/' :: part

theorem EndsIn.join {part : List Char} {p : String} (ends : EndsIn part p) (directory : String) :
    EndsIn part (join directory p) := by
  -- whatever stands in front of `p` ends in a slash
  have below (front : List Char) {q : String} (split : q.toList = front ++ '/' :: p.toList) :
      EndsIn part q := by
    rcases ends with same | ⟨more, longer⟩
    · exact .inr ⟨front, by rw [split, same]⟩
    · exact .inr ⟨front ++ '/' :: more, by rw [split, longer]; simp⟩
  unfold Path.join
  split_ifs with alone closed
  · exact ends
  · obtain ⟨front, split⟩ := List.getLast?_eq_some_iff.mp closed
    exact below front (by simp [split])
  · exact below directory.toList (by simp)

section

variable {name : String} (entry : IsEntry name) (directory : String)

include entry

theorem IsEntry.filter_parts :
    (parts name.toList).filter (fun part => !isIdle part) = [name.toList] := by
  rw [parts_of_flat entry.flat]
  simp [isIdle, entry.notEmpty, entry.notDot]

theorem IsEntry.head?_ne : name.toList.head? ≠ some '/' :=
  fun front => entry.flat (List.mem_of_mem_head? front)

/-- The ways in which a name is put below a directory. -/
theorem join_cases :
    directory = "" ∧ join directory name = name ∨
      (∃ front, directory.toList = front ++ ['/'] ∧
        (join directory name).toList = front ++ '/' :: name.toList) ∨
      directory ≠ "" ∧ (join directory name).toList = directory.toList ++ '/' :: name.toList := by
  have relative := entry.head?_ne
  unfold join
  by_cases here : directory = ""
  · exact .inl ⟨here, by simp [here]⟩
  · have below : ¬ ((name.toList.head? = some '/' || directory = "") = true) := by
      simp [relative, here]
    rw [if_neg below]
    split_ifs with closed
    · obtain ⟨front, split⟩ := List.getLast?_eq_some_iff.mp closed
      exact .inr (.inl ⟨front, split, by simp [split]⟩)
    · exact .inr (.inr ⟨here, by simp⟩)

/-- Below a directory, a name is one more name along the path. -/
theorem names_join : names (join directory name) = names directory ++ [name] := by
  have own := entry.filter_parts
  unfold names
  rcases join_cases entry directory with ⟨rfl, same⟩ | ⟨front, split, joined⟩ | ⟨-, joined⟩
  · rw [same, own]
    simp [parts, isIdle]
  · rw [joined, split, parts_append_slash, parts_append_slash, List.filter_append,
      List.filter_append, own]
    simp [parts, isIdle]
  · rw [joined, parts_append_slash, List.filter_append, own]
    simp

/-- A path that ends in a name leads to something of this name. -/
theorem EndsIn.names {p : String} (ends : EndsIn name.toList p) :
    ∃ front, Path.names p = front ++ [name] := by
  have own := entry.filter_parts
  unfold Path.names
  rcases ends with same | ⟨front, split⟩
  · rw [same, own]
    exact ⟨[], by simp⟩
  · rw [split, parts_append_slash, List.filter_append, own, List.map_append, List.map_singleton,
      String.ofList_toList]
    exact ⟨_, rfl⟩

theorem isAbsolute_join : isAbsolute (join directory name) = isAbsolute directory := by
  have relative := entry.head?_ne
  unfold isAbsolute
  rcases join_cases entry directory with ⟨rfl, same⟩ | ⟨front, split, joined⟩ | ⟨there, joined⟩
  · rw [same]
    simp [relative]
  · rw [joined, split]
    cases front <;> rfl
  · rw [joined]
    cases split : directory.toList with
    | nil => exact absurd (String.toList_eq_nil_iff.mp split) there
    | cons c cs => rfl

theorem start_join : Place.start (join directory name) = .start directory := by
  rw [Place.start, isAbsolute_join entry, Place.start]

end

end Path

theorem Place.entry_inj {p : Place} {name name' : String} :
    p.entry name = p.entry name' ↔ name = name' := by
  simp [entry]

namespace FileTree

variable {t t' : FileTree} {path path' : String} {bytes bytes' : List UInt8}

/-! ## Directories stay -/

/-- Every directory of the one tree is one of the other. -/
def Extends (t t' : FileTree) : Prop :=
  ∀ place, t.node? place = some .directory → t'.node? place = some .directory

/-- Names lead where they led before. -/
theorem Extends.follow (more : Extends t t') {names : List String} {p place : Place}
    (leads : t.follow p names = .ok place) : t'.follow p names = .ok place := by
  induction names generalizing p with
  | nil => exact leads
  | cons name rest ih =>
      unfold FileTree.follow at leads ⊢
      cases there : t.node? p with
      | none =>
          rw [there] at leads
          cases leads
      | some node =>
          cases node with
          | file bytes =>
              rw [there] at leads
              cases leads
          | directory =>
              rw [there] at leads
              rw [more p there]
              simp only at leads ⊢
              split_ifs at leads ⊢ with up
              · exact ih leads
              · exact ih leads

theorem Extends.locate (more : Extends t t') {place : Place}
    (leads : t.locate path = .ok place) : t'.locate path = .ok place := by
  unfold FileTree.locate at leads ⊢
  split_ifs at leads ⊢
  exact more.follow leads

theorem follow_append (t : FileTree) (p : Place) (front back : List String) :
    t.follow p (front ++ back) = (t.follow p front).bind fun q => t.follow q back := by
  induction front generalizing p with
  | nil => rfl
  | cons name front ih =>
      rw [List.cons_append, follow, follow]
      split
      · rfl
      · rfl
      · split_ifs
        · exact ih _
        · rfl
        · exact ih _

/-- A path leads to an entry of the name that it ends in. -/
theorem locate_of_names {front : List String} {name : String}
    (along : Path.names path = front ++ [name]) (notUp : name ≠ "..") {place : Place}
    (leads : t.locate path = .ok place) :
    ∃ p, t.follow (.start path) front = .ok p ∧ place = p.entry name := by
  unfold locate at leads
  split_ifs at leads
  rw [along, follow_append] at leads
  cases above : t.follow (.start path) front with
  | error reason =>
      rw [above] at leads
      cases leads
  | ok p =>
      rw [above] at leads
      refine ⟨p, rfl, ?_⟩
      simp only [Except.bind, follow, notUp, if_false] at leads
      split at leads
      · cases leads
      · cases leads
      · split_ifs at leads
        exact (Except.ok.inj leads).symm

/-- A path below a directory leads to an entry of it. -/
theorem locate_join {directory name : String} (entry : Path.IsEntry name) {place : Place}
    (leads : t.locate (Path.join directory name) = .ok place) :
    ∃ p, t.follow (.start directory) (Path.names directory) = .ok p ∧ place = p.entry name := by
  have found := locate_of_names (Path.names_join entry directory) entry.ne_up leads
  rwa [Path.start_join entry] at found

/-! ## One write -/

/-- Two paths that lead to different places wherever both lead. -/
def Apart (path path' : String) : Prop :=
  ∀ (t : FileTree) (place place' : Place), t.locate path = .ok place →
    t.locate path' = .ok place' → place ≠ place'

/-- Files of different names in one directory are apart. -/
theorem apart_join {name name' : String} (directory : String) (entry : Path.IsEntry name)
    (entry' : Path.IsEntry name') (differ : name ≠ name') :
    Apart (Path.join directory name) (Path.join directory name') := by
  rintro t place place' leads leads' same
  obtain ⟨p, above, rfl⟩ := locate_join entry leads
  obtain ⟨p', above', rfl⟩ := locate_join entry' leads'
  cases above.symm.trans above'
  exact differ (Place.entry_inj.mp same)

/-- Paths that end in different names are apart. -/
theorem apart_of_endsIn {name name' : String} (entry : Path.IsEntry name)
    (entry' : Path.IsEntry name') (ends : Path.EndsIn name.toList path)
    (ends' : Path.EndsIn name'.toList path') (differ : name ≠ name') : Apart path path' := by
  obtain ⟨front, along⟩ := ends.names entry
  obtain ⟨front', along'⟩ := ends'.names entry'
  rintro t place place' leads leads' same
  obtain ⟨p, -, rfl⟩ := locate_of_names along entry.ne_up leads
  obtain ⟨p', -, rfl⟩ := locate_of_names along' entry'.ne_up leads'
  have names : p.names ++ [name] = p'.names ++ [name'] := congrArg Place.names same
  exact differ (List.append_singleton_inj.mp names).2

/-- A node that is put where no directory is stands there, and nothing else changes. -/
theorem node?_insert {place : Place} (free : t.node? place ≠ some .directory) (node : FileNode)
    (q : Place) : (FileTree.mk (t.nodes.insert place node)).node? q =
      if q = place then some node else t.node? q := by
  have below : place.names ≠ [] := by
    intro base
    exact free (by rw [node?, if_pos base])
  unfold node?
  rw [Table.find?_insert]
  by_cases here : q = place
  · subst here
    rw [if_neg below, if_pos rfl, if_pos rfl]
  · rw [if_neg here, if_neg here]

/-- What a write does: a file is put where no directory is. -/
theorem write_eq_ok (wrote : t.write path bytes = .ok t') :
    ∃ place, t.locate path = .ok place ∧ t.node? place ≠ some .directory ∧
      Path.endsOpen path = false ∧
        ∀ q, t'.node? q = if q = place then some (.file bytes) else t.node? q := by
  unfold write at wrote
  cases leads : t.locate path with
  | error reason =>
      rw [leads] at wrote
      cases wrote
  | ok place =>
      rw [leads] at wrote
      simp only [bind, Except.bind] at wrote
      split at wrote
      · cases wrote
      · rename_i old isFile
        have free : t.node? place ≠ some .directory := by simp [isFile]
        split_ifs at wrote with opened
        cases wrote
        exact ⟨place, rfl, free, by simpa using opened, node?_insert free _⟩
      · rename_i nothing
        have free : t.node? place ≠ some .directory := by simp [nothing]
        split_ifs at wrote with opened
        cases wrote
        exact ⟨place, rfl, free, by simpa using opened, node?_insert free _⟩

/-- Writing takes no directory away. -/
theorem extends_of_write (wrote : t.write path bytes = .ok t') : Extends t t' := by
  obtain ⟨place, -, notDirectory, -, after⟩ := write_eq_ok wrote
  intro q there
  have elsewhere : q ≠ place := by
    rintro rfl
    exact notDirectory there
  rw [after q, if_neg elsewhere, there]

/-- A file that was written is read back. -/
theorem read_write_self (wrote : t.write path bytes = .ok t') : t'.read path = .ok bytes := by
  obtain ⟨place, leads, -, closed, after⟩ := write_eq_ok wrote
  have leads' := (extends_of_write wrote).locate leads
  have file := after place
  rw [if_pos rfl] at file
  simp only [read, leads', bind, Except.bind, file, closed]
  rfl

/-- A file somewhere else is read as before. -/
theorem read_write_of_apart (wrote : t.write path bytes = .ok t') (apart : Apart path path')
    (held : t.read path' = .ok bytes') : t'.read path' = .ok bytes' := by
  obtain ⟨place, leads, -, -, after⟩ := write_eq_ok wrote
  cases leads' : t.locate path' with
  | error reason =>
      simp only [read, leads', bind, Except.bind] at held
      cases held
  | ok place' =>
      have elsewhere : place' ≠ place := (apart t place place' leads leads').symm
      have still := (extends_of_write wrote).locate leads'
      have node := after place'
      rw [if_neg elsewhere] at node
      simp only [read, leads', still, bind, Except.bind, node] at held ⊢
      exact held

/-! ## Many writes -/

/-- Writes files one after the other. -/
def writeAll (t : FileTree) : List (String × List UInt8) → Except FileError FileTree
  | [] => .ok t
  | file :: rest =>
    match t.write file.1 file.2 with
    | .ok t' => t'.writeAll rest
    | .error reason => .error reason

/-- Files are written if the first is, and then the rest. -/
theorem writeAll_cons_eq_ok_iff {file : String × List UInt8} {rest : List (String × List UInt8)} :
    t.writeAll (file :: rest) = .ok t' ↔
      ∃ mid, t.write file.1 file.2 = .ok mid ∧ mid.writeAll rest = .ok t' := by
  rw [writeAll]
  cases t.write file.1 file.2 <;> simp

/-- The last of some writes that concerns a path. -/
def LastWrite (files : List (String × List UInt8)) (path : String) (bytes : List UInt8) : Prop :=
  ∃ before after, files = before ++ (path, bytes) :: after ∧ ∀ file ∈ after, Apart file.1 path

theorem writeAll_append {front back : List (String × List UInt8)}
    (wrote : t.writeAll (front ++ back) = .ok t') :
    ∃ mid, t.writeAll front = .ok mid ∧ mid.writeAll back = .ok t' := by
  induction front generalizing t with
  | nil => exact ⟨t, rfl, wrote⟩
  | cons file front ih =>
      obtain ⟨first, wroteFirst, wrote⟩ := writeAll_cons_eq_ok_iff.mp wrote
      obtain ⟨mid, wroteFront, wroteBack⟩ := ih wrote
      exact ⟨mid, writeAll_cons_eq_ok_iff.mpr ⟨first, wroteFirst, wroteFront⟩, wroteBack⟩

/-- Writes elsewhere leave a file as it is. -/
theorem read_writeAll_of_apart {files : List (String × List UInt8)}
    (wrote : t.writeAll files = .ok t') (apart : ∀ file ∈ files, Apart file.1 path)
    (held : t.read path = .ok bytes) : t'.read path = .ok bytes := by
  induction files generalizing t with
  | nil =>
      cases wrote
      exact held
  | cons file rest ih =>
      obtain ⟨here, later⟩ := List.forall_mem_cons.mp apart
      obtain ⟨mid, wroteFirst, wrote⟩ := writeAll_cons_eq_ok_iff.mp wrote
      exact ih wrote later (read_write_of_apart wroteFirst here held)

/-- Of writes to places that are apart, each is the last one to its place. -/
theorem lastWrite_of_pairwise {files : List (String × List UInt8)}
    (apart : files.Pairwise fun file later => Apart later.1 file.1) :
    ∀ file ∈ files, LastWrite files file.1 file.2 := by
  intro file given
  obtain ⟨before, after, rfl⟩ := List.append_of_mem given
  have behind := (List.pairwise_cons.mp (List.pairwise_append.mp apart).2.1).1
  exact ⟨before, after, rfl, behind⟩

theorem LastWrite.append {files : List (String × List UInt8)} (last : LastWrite files path bytes)
    (front : List (String × List UInt8)) {back : List (String × List UInt8)}
    (apart : ∀ file ∈ back, Apart file.1 path) : LastWrite (front ++ files ++ back) path bytes := by
  obtain ⟨before, after, rfl, later⟩ := last
  refine ⟨front ++ before, after ++ back, by simp, fun file given => ?_⟩
  rcases List.mem_append.mp given with inAfter | inBack
  · exact later file inAfter
  · exact apart file inBack

/-- A last write of one part is the last write of all parts, if the parts behind it write
elsewhere. -/
theorem LastWrite.flatMap {α : Type} (filesOf : α → List (String × List UInt8)) {a : α}
    (last : LastWrite (filesOf a) path bytes) (front : List α) {back : List α}
    (apart : ∀ b ∈ back, ∀ file ∈ filesOf b, Apart file.1 path) :
    LastWrite ((front ++ a :: back).flatMap filesOf) path bytes := by
  rw [List.flatMap_append, List.flatMap_cons, ← List.append_assoc]
  refine last.append (front.flatMap filesOf) fun file given => ?_
  obtain ⟨b, inBack, ofPart⟩ := List.mem_flatMap.mp given
  exact apart b inBack file ofPart

/-- A path holds what was written to it last. -/
theorem read_of_lastWrite {files : List (String × List UInt8)}
    (wrote : t.writeAll files = .ok t') (last : LastWrite files path bytes) :
    t'.read path = .ok bytes := by
  obtain ⟨before, after, rfl, apart⟩ := last
  obtain ⟨mid, -, wrote⟩ := writeAll_append wrote
  obtain ⟨own, wroteOwn, wrote⟩ := writeAll_cons_eq_ok_iff.mp wrote
  exact read_writeAll_of_apart wrote apart (read_write_self wroteOwn)

theorem extends_of_writeAll {files : List (String × List UInt8)}
    (wrote : t.writeAll files = .ok t') : Extends t t' := by
  induction files generalizing t with
  | nil =>
      cases wrote
      exact fun _ there => there
  | cons file rest ih =>
      obtain ⟨mid, wroteFirst, wrote⟩ := writeAll_cons_eq_ok_iff.mp wrote
      exact fun place there => ih wrote place (extends_of_write wroteFirst place there)

/-- At every place there is what was there before, or what was written there. -/
theorem node?_writeAll {files : List (String × List UInt8)} (wrote : t.writeAll files = .ok t')
    (place : Place) : t'.node? place = t.node? place ∨
      ∃ file ∈ files, t'.locate file.1 = .ok place ∧ t'.node? place = some (.file file.2) := by
  induction files generalizing t with
  | nil =>
      cases wrote
      exact .inl rfl
  | cons file rest ih =>
      obtain ⟨mid, wroteFirst, wrote⟩ := writeAll_cons_eq_ok_iff.mp wrote
      rcases ih wrote with same | ⟨later, among, leads, held⟩
      · obtain ⟨own, leads, -, -, after⟩ := write_eq_ok wroteFirst
        have stays := (extends_of_writeAll wrote).locate
          ((extends_of_write wroteFirst).locate leads)
        by_cases here : place = own
        · subst here
          have held := same.trans (after place)
          rw [if_pos rfl] at held
          exact .inr ⟨file, List.mem_cons_self, stays, held⟩
        · rw [same, after place, if_neg here]
          exact .inl rfl
      · exact .inr ⟨later, List.mem_cons_of_mem _ among, leads, held⟩

/-! ## Making directories -/

/-- The second tree has more directories than the first, and nothing else is different. -/
def MoreDirectories (t t' : FileTree) : Prop :=
  ∀ place, t'.node? place = t.node? place ∨
    t.node? place = none ∧ t'.node? place = some .directory

theorem MoreDirectories.refl (t : FileTree) : MoreDirectories t t := fun _ => .inl rfl

theorem MoreDirectories.trans {t₁ t₂ t₃ : FileTree} (first : MoreDirectories t₁ t₂)
    (second : MoreDirectories t₂ t₃) : MoreDirectories t₁ t₃ := by
  intro place
  rcases first place with same | ⟨free, made⟩ <;> rcases second place with same' | ⟨free', made'⟩
  · exact .inl (same'.trans same)
  · exact .inr ⟨same.symm.trans free', made'⟩
  · exact .inr ⟨free, same'.trans made⟩
  · cases made.symm.trans free'

theorem moreDirectories_of_makeDir (made : t.makeDir path = .ok t') : MoreDirectories t t' := by
  unfold makeDir at made
  cases leads : t.locate path with
  | error reason =>
      rw [leads] at made
      cases made
  | ok place =>
      rw [leads] at made
      simp only [bind, Except.bind] at made
      split at made
      · cases made
      · split_ifs at made
      · rename_i free
        split_ifs at made
        cases made
        intro q
        rw [node?_insert (by simp [free])]
        split_ifs with here
        · exact .inr ⟨here ▸ free, rfl⟩
        · exact .inl rfl

theorem moreDirectories_of_ensureDir (made : t.ensureDir path = .ok t') :
    MoreDirectories t t' := by
  unfold ensureDir at made
  split at made
  · split_ifs at made
    cases made
    exact .refl t
  · exact moreDirectories_of_makeDir made

theorem moreDirectories_of_ensureDirs {paths : List String}
    (made : t.ensureDirs paths = .ok t') : MoreDirectories t t' := by
  induction paths generalizing t' with
  | nil =>
      cases made
      exact .refl t
  | cons path above ih =>
      unfold ensureDirs at made
      split at made
      · cases first : t.ensureDirs above with
        | error reason =>
            rw [first] at made
            cases made
        | ok mid =>
            rw [first] at made
            exact (ih first).trans (moreDirectories_of_ensureDir made)
      · exact moreDirectories_of_ensureDir made

/-- Making a directory adds directories. -/
theorem moreDirectories_of_createDirAll (made : t.createDirAll path = .ok t') :
    MoreDirectories t t' :=
  moreDirectories_of_ensureDirs made

end FileTree

end ShaderBundle
