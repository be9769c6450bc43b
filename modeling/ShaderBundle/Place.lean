/-
# Place — where paths lead

A path starts at the root or at the working directory, and `..` may lead above the
working directory.  A `Place` is a base and the names that lead down from it; `..`
takes the last name away, and where no name is left it changes the base.  The root
stands in itself.
-/
import ShaderBundle.Path

namespace ShaderBundle

set_option autoImplicit false

/-- A directory that places are counted from. -/
inductive Base where
  /-- The directory so many steps above the working directory. -/
  | up (steps : Nat)
  | root
deriving DecidableEq

/-- A base and the names below it. -/
structure Place where
  base : Base
  names : List String
deriving DecidableEq

namespace Place

def start (path : String) : Place :=
  if Path.isAbsolute path then ⟨.root, []⟩ else ⟨.up 0, []⟩

def entry (p : Place) (name : String) : Place := ⟨p.base, p.names ++ [name]⟩

def above : Place → Place
  | ⟨.up steps, []⟩ => ⟨.up (steps + 1), []⟩
  | ⟨.root, []⟩ => ⟨.root, []⟩
  | ⟨base, names⟩ => ⟨base, names.dropLast⟩

/-- The names that lead from some names on to others, if these start with them. -/
def namesAfter? : List String → List String → Option (List String)
  | [], names => some names
  | _ :: _, [] => none
  | a :: before, b :: names => if a = b then namesAfter? before names else none

/-- The names that lead from a place down to another. -/
def namesTo? (p q : Place) : Option (List String) :=
  if p.base = q.base then namesAfter? p.names q.names else none

end Place

end ShaderBundle
