/-
# Sink — writing where there may be too little room

A sink takes bytes until it is full.  What it took stays, and the first byte that it
cannot take ends the writing (`Sink.Full`).  `putAll` offers pieces one after the
other and stops at the first that did not fit; a `Writing` does the same at each of its
steps.
-/
import ShaderBundle.Text.Utf8

namespace ShaderBundle

set_option autoImplicit false

/-- A place to write to. -/
structure Sink where
  written : List UInt8
  /-- How many more bytes it takes; without a number it takes all. -/
  room : Option Nat
deriving DecidableEq

namespace Sink

/-- An empty sink that takes so many bytes. -/
def ofRoom (n : Nat) : Sink := ⟨[], some n⟩

def unlimited : Sink := ⟨[], none⟩

/-- A sink after an offer, and whether it took everything. -/
structure Offer where
  sink : Sink
  complete : Bool

inductive Full where
  | full
deriving DecidableEq

/-- The wording of the error when a sink is full. -/
def fullMessage : String := "full"

def put (s : Sink) (bytes : List UInt8) : Offer :=
  match s.room with
  | none => ⟨{ s with written := s.written ++ bytes }, true⟩
  | some n =>
    ⟨⟨s.written ++ bytes.take n, some (n - bytes.length)⟩, bytes.length ≤ n⟩

/-- Offers texts one after the other. -/
def putAll (s : Sink) : List String → Offer
  | [] => ⟨s, true⟩
  | text :: rest =>
    let offer := s.put (Text.Utf8.bytes text)
    if offer.complete then offer.sink.putAll rest else offer

/-- Steps that write to a sink.  The error of one ends them all, and what is in the sink
stays there. -/
abbrev Writing := EStateM Full Sink Unit

/-- How a step goes on after an offer. -/
def Offer.result (o : Offer) : EStateM.Result Full Sink Unit :=
  if o.complete then .ok () o.sink else .error .full o.sink

def emit (text : String) : Writing := fun s => (s.put (Text.Utf8.bytes text)).result

def emitLine (indent text : String) : Writing := emit (indent ++ text ++ "\n")

end Sink

end ShaderBundle
