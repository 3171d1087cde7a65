import ChatFlow.Disk.FilePath
import ChatFlow.OrderedMap

/-!
# ChatFlow — trees of files

A directory holds files, symbolic links and further directories, each under a name. A spot is a
directory together with the way back to the root; from it one goes down by name or up.

## Results

* `Directory.find?_put`, `Directory.find?_drop` — look-ups after a change of one directory.
-/

namespace ChatFlow

inductive Entry
  | file (text : String)
  | directory (entries : List (String × Entry))
  /-- A symbolic link; its target counts from the directory that it stands in. -/
  | link (target : FilePath)
  deriving Inhabited

/-- What a directory holds. -/
abbrev Directory := List (String × Entry)

namespace Directory

def find? (d : Directory) (name : String) : Option Entry := OrderedMap.find? name d

def put (name : String) (entry : Entry) (d : Directory) : Directory := OrderedMap.put name entry d

def drop (name : String) (d : Directory) : Directory := d.filter fun e => decide (e.1 ≠ name)

@[simp] theorem find?_put (d : Directory) (name : String) (entry : Entry) (other : String) :
    (d.put name entry).find? other = if name = other then some entry else d.find? other :=
  OrderedMap.find?_put name entry d other

@[simp] theorem find?_drop (d : Directory) (name other : String) :
    (d.drop name).find? other = if name = other then none else d.find? other :=
  OrderedMap.find?_filter_ne name d other

/-- Changes the directory that the names lead to. -/
def update (change : Directory → Directory) : List String → Directory → Directory
  | [], d => change d
  | name :: rest, d =>
    match d.find? name with
    | some (.directory inner) => d.put name (.directory (update change rest inner))
    | _ => d

end Directory

/-! ## Spots -/

structure Spot where
  directory : Directory
  /-- The names that lead here, innermost first, each with the directory that it stands in. -/
  above : List (String × Directory)

namespace Spot

def enter (s : Spot) (name : String) (inner : Directory) : Spot :=
  ⟨inner, (name, s.directory) :: s.above⟩

/-- The directory around this one; the root stands in itself. -/
def up (s : Spot) : Spot :=
  match s.above with
  | [] => s
  | (_, outer) :: above => ⟨outer, above⟩

def root (s : Spot) : Spot :=
  match s.above.getLast? with
  | none => s
  | some (_, outermost) => ⟨outermost, []⟩

/-- The names that lead here from the root. -/
def names (s : Spot) : List String := (s.above.map Prod.fst).reverse

end Spot

end ChatFlow
