/-
# Proofs.Bundle.Listing — a full sink holds the front of a listing

A listing is written line by line, and the first line that does not fit ends the
writing.  `listing_keepsFront`: wherever that happens, the sink holds the bytes that it
had room for, in their order and with nothing between them, and whoever writes is told
exactly when bytes are missing.

`Sends` says of a writing which pieces it offers, from any sink on: no step hides the
error of another, and none goes on behind one.  It holds of a line, and it composes along
steps and loops (`Sends.followedBy`, `Sends.forM`), so each listing has it from the
listings inside it.  What a sink holds of pieces is then a matter of `Sink.putAll_eq`
alone.
-/
import ShaderBundle.Bundle.Listing

namespace ShaderBundle

set_option autoImplicit false

namespace Sink

/-! ## Pieces one after the other -/

/-- Without an end the pieces all go in. -/
theorem putAll_unlimited (pieces : List String) (written : List UInt8) :
    putAll ⟨written, none⟩ pieces =
      ⟨⟨written ++ pieces.flatMap Text.Utf8.bytes, none⟩, true⟩ := by
  induction pieces generalizing written with
  | nil => simp [putAll]
  | cons text rest ih =>
    show putAll ⟨written ++ Text.Utf8.bytes text, none⟩ rest = _
    rw [ih, List.flatMap_cons, List.append_assoc]

/-- With room for `n` more bytes these are the first `n`, and only a text that is longer
is reported. -/
theorem putAll_eq (pieces : List String) (written : List UInt8) (n : Nat) :
    putAll ⟨written, some n⟩ pieces =
      ⟨⟨written ++ (pieces.flatMap Text.Utf8.bytes).take n,
          some (n - (pieces.flatMap Text.Utf8.bytes).length)⟩,
        (pieces.flatMap Text.Utf8.bytes).length ≤ n⟩ := by
  induction pieces generalizing written n with
  | nil => simp [putAll]
  | cons text rest ih =>
    by_cases fits : (Text.Utf8.bytes text).length ≤ n
    · -- the piece goes in, and the rest is offered to what room is left
      have all : (Text.Utf8.bytes text).take n = Text.Utf8.bytes text :=
        List.take_of_length_le fits
      simp only [putAll, put, fits, decide_true, if_true, ih, all, List.flatMap_cons,
        List.take_append, List.length_append, List.append_assoc, Nat.sub_sub,
        Nat.le_sub_iff_add_le' fits]
    · -- the piece fills the sink, so the rest could not add to it
      have filled : n - (Text.Utf8.bytes text).length = 0 := by omega
      have longer : ¬ (Text.Utf8.bytes text).length +
          (rest.flatMap Text.Utf8.bytes).length ≤ n := by omega
      simp only [putAll, put, fits, decide_false, Bool.false_eq_true, if_false,
        List.flatMap_cons, List.take_append, List.length_append, longer, filled, List.take_zero,
        List.append_nil, Nat.sub_add_eq, Nat.zero_sub]

/-- Pieces behind others are offered only if these all went in. -/
theorem putAll_append (s : Sink) (pieces behind : List String) :
    s.putAll (pieces ++ behind) =
      if (s.putAll pieces).complete then (s.putAll pieces).sink.putAll behind
      else s.putAll pieces := by
  induction pieces generalizing s with
  | nil => simp [putAll]
  | cons text rest ih =>
    by_cases fits : (s.put (Text.Utf8.bytes text)).complete
    · simp only [List.cons_append, putAll, fits, if_true, ih]
    · simp only [List.cons_append, putAll, fits, if_false, Bool.false_eq_true]

/-! ## Writings -/

/-- The steps offer these pieces, in this order, and end with the first that does not fit. -/
def Sends (w : Writing) (pieces : List String) : Prop :=
  ∀ s : Sink, w.run s = (s.putAll pieces).result

theorem sends_emit (text : String) : Sends (emit text) [text] := by
  intro s
  show (s.put (Text.Utf8.bytes text)).result = _
  rw [putAll]
  by_cases fits : (s.put (Text.Utf8.bytes text)).complete
  · simp only [Offer.result, putAll, fits, if_true]
  · simp only [fits, if_false, Bool.false_eq_true]

theorem sends_emitLine (indent text : String) :
    Sends (emitLine indent text) [indent ++ text ++ "\n"] :=
  sends_emit _

theorem Sends.followedBy {w after : Writing} {pieces behind : List String}
    (first : Sends w pieces) (second : Sends after behind) :
    Sends (do w; after) (pieces ++ behind) := by
  intro s
  rw [putAll_append, EStateM.run_bind, first s]
  by_cases complete : (s.putAll pieces).complete
  · simp only [Offer.result, complete, if_true]
    exact second _
  · simp only [Offer.result, complete, if_false, Bool.false_eq_true]

/-- A loop sends what its rounds send. -/
theorem Sends.forM {α : Type} {body : α → Writing} {pieces : α → List String}
    (each : ∀ a, Sends (body a) (pieces a)) (as : List α) :
    Sends (as.forM body) (as.flatMap pieces) := by
  induction as with
  | nil =>
    intro s
    rfl
  | cons a rest ih => exact (each a).followedBy ih

/-- A loop that writes a line for each of some things. -/
theorem sends_lines {α : Type} (indent : String) (line : α → String) (as : List α) :
    Sends (as.forM fun a => emitLine indent (line a))
      ((as.map line).map fun text => indent ++ text ++ "\n") := by
  have each := Sends.forM (fun a => sends_emitLine indent (line a)) as
  rw [← List.map_eq_flatMap] at each
  rw [List.map_map]
  exact each

/-- What becomes of pieces in a sink without an end and in one with room for `n` bytes. -/
structure KeepsFront (n : Nat) (w : Writing) (pieces : List String) : Prop where
  /-- A sink without an end takes the text, byte for byte what a file of it holds. -/
  whole : w.run unlimited = .ok () ⟨pieces.flatMap Text.Utf8.bytes, none⟩
  /-- The other one takes it if it has room for all of it.  If not, it is left with the
  first `n` bytes, and the writing ends with its error. -/
  front : w.run (ofRoom n) =
    if (pieces.flatMap Text.Utf8.bytes).length ≤ n then
      .ok () ⟨pieces.flatMap Text.Utf8.bytes, some (n - (pieces.flatMap Text.Utf8.bytes).length)⟩
    else .error .full ⟨(pieces.flatMap Text.Utf8.bytes).take n, some 0⟩

theorem Sends.keepsFront {w : Writing} {pieces : List String} (sends : Sends w pieces) (n : Nat) :
    KeepsFront n w pieces := by
  constructor
  · rw [sends, unlimited, putAll_unlimited, List.nil_append]
    rfl
  · rw [sends, ofRoom, putAll_eq, List.nil_append]
    by_cases fits : (pieces.flatMap Text.Utf8.bytes).length ≤ n
    · have all := List.take_of_length_le fits
      simp only [Offer.result, fits, decide_true, if_true, all]
    · have filled : n - (pieces.flatMap Text.Utf8.bytes).length = 0 := by omega
      simp only [Offer.result, fits, decide_false, Bool.false_eq_true, if_false, filled]

end Sink

/-! ## Listings -/

open Sink (Sends sends_emit sends_emitLine sends_lines)

theorem UniformBlock.sends_writeListing (b : UniformBlock) (indent : String) :
    Sends (b.writeListing indent) (b.lines.map fun line => indent ++ line ++ "\n") :=
  (sends_emitLine indent _).followedBy (sends_lines indent Uniform.line b.uniforms)

theorem Interface.sends_writeListing (i : Interface) (indent : String) :
    Sends (i.writeListing indent) (i.listing indent) := by
  have inputs := sends_lines indent Attribute.line i.inputs.toList
  have outputs := sends_lines indent Attribute.line i.outputs.toList
  have blocks := Sends.forM (fun b : UniformBlock => b.sends_writeListing indent) i.uniformBlocks
  have images := sends_lines indent Image.line i.images
  unfold listing lines
  simp only [List.map_append, List.map_cons, List.map_flatMap, List.append_assoc,
    List.cons_append, List.nil_append]
  refine (sends_emitLine indent _).followedBy ?_
  refine (sends_emitLine indent _).followedBy ?_
  refine (sends_emitLine indent _).followedBy ?_
  refine inputs.followedBy ?_
  refine (sends_emitLine indent _).followedBy ?_
  exact outputs.followedBy (blocks.followedBy (images.followedBy (sends_emit _)))

theorem CompiledShader.sends_writeListing (s : CompiledShader) :
    Sends s.writeListing s.listing := by
  have code := sends_lines "      " String.ofList (Text.lines s.sourceCode.toList)
  rw [List.map_map] at code
  have own := s.interface.sends_writeListing "      "
  exact (sends_emit _).followedBy (code.followedBy ((sends_emit _).followedBy own))

theorem Compilation.sends_writeListing (t : Compilation) (format : DiagnosticFormat) :
    Sends (t.writeListing format) (t.listing format) := by
  have sources := Sends.forM CompiledShader.sends_writeListing t.sources
  have last := sources.followedBy (sends_emit "\n")
  unfold writeListing listing
  cases t.error with
  | some e => exact (sends_emit _).followedBy ((sends_emit _).followedBy last)
  | none => exact (sends_emit _).followedBy ((sends_emit _).followedBy last)

/-- **A full sink holds the front of a listing.**  Written to a sink with too little room,
the listing of a compilation and that of an interface end with its error, and the sink
holds them up to the last byte that it had room for. -/
theorem listing_keepsFront (n : Nat) :
    (∀ (c : Compilation) (format : DiagnosticFormat),
      Sink.KeepsFront n (c.writeListing format) (c.listing format)) ∧
    ∀ (i : Interface) (indent : String),
      Sink.KeepsFront n (i.writeListing indent) (i.listing indent) :=
  ⟨fun c format => (c.sends_writeListing format).keepsFront n,
    fun i indent => (i.sends_writeListing indent).keepsFront n⟩

end ShaderBundle
