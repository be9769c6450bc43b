/-
# Path — names of files

A path is a text with slashes between its parts.  `join` puts a path below another:
an absolute path replaces it, and exactly one slash stands between the two unless
the first is empty or ends in one.  `parent` drops the last part and the empty and
`.` parts that this leaves at the end; `ancestors` does so again and again.
-/
namespace ShaderBundle.Path

set_option autoImplicit false

/-- `q` as seen from the directory `p`. -/
def join (p q : String) : String :=
  if q.toList.head? = some '/' || p = "" then q
  else if p.toList.getLast? = some '/' then p ++ q
  else p ++ "/" ++ q

def ofSegments (segments : List String) : String := segments.foldl join ""

/-- The parts between the slashes, empty ones included. -/
def parts : List Char → List (List Char)
  | [] => [[]]
  | c :: rest =>
    if c = '/' then [] :: parts rest
    else
      match parts rest with
      | [] => [[c]]
      | p :: ps => (c :: p) :: ps

/-- A part that names nothing. -/
def isIdle (part : List Char) : Bool := part = [] || part = ['.']

/-- Parts, last first, without the idle ones in front; the very first part of the path
stays, because an empty one marks the root and `.` the working directory. -/
def dropIdle : List (List Char) → List (List Char)
  | [] => []
  | [first] => [first]
  | p :: ps => if isIdle p then dropIdle ps else p :: ps

def ofParts (ps : List (List Char)) : List Char := ['/'].intercalate ps

/-- The directory that holds the file of a path; empty where there is none. -/
def parent (p : String) : String :=
  match dropIdle (parts p.toList).reverse with
  | [] => ""
  | [_] => ""
  | _ :: rest =>
    match dropIdle rest with
    | [[]] => "/"
    | ps => String.ofList (ofParts ps.reverse)

/-- The names along a path, without idle parts. -/
def names (p : String) : List String :=
  ((parts p.toList).filter fun part => !isIdle part).map String.ofList

/-- Whether a path ends in a part that names nothing, so that it means a directory. -/
def endsOpen (p : String) : Bool :=
  match (parts p.toList).getLast? with
  | some last => isIdle last
  | none => false

/-- Whether the last part of a path that is not empty is `.` or `..`; such a path can only
mean a directory that is there already. -/
def endsInDots (p : String) : Bool :=
  match (parts p.toList).reverse.find? fun part => part ≠ [] with
  | some last => last = ['.'] || last = ['.', '.']
  | none => false

def isAbsolute (p : String) : Bool := p.toList.head? = some '/'

/-- A path and the directories above it, up to the working directory or the root, which
are left out.  Every step drops a part, so their number bounds the steps. -/
def climb : Nat → String → List String
  | 0, _ => []
  | fuel + 1, p =>
    if p = "" || (isAbsolute p && names p = []) then [] else p :: climb fuel (parent p)

def ancestors (p : String) : List String := climb (parts p.toList).length p

end ShaderBundle.Path
