/-!
# Sets and tables

A set is the list of its elements in the order of a comparison, and a table is a list of values under keys
of which no two are the same. What is put into a table under a key replaces what was there.
-/

namespace TokenAuthority

namespace OrderedSet

variable {α : Type}

/-- Puts an element into a set. One that is equal to it stays instead. -/
def insert (compare : α → α → Ordering) (element : α) : List α → List α
  | [] => [element]
  | other :: rest =>
    match compare element other with
    | .lt => element :: other :: rest
    | .eq => other :: rest
    | .gt => other :: insert compare element rest

/-- Puts elements into a set, one after the other. -/
def insertAll (compare : α → α → Ordering) (set elements : List α) : List α :=
  elements.foldl (fun set element => insert compare element set) set

end OrderedSet

/-- Values under keys. -/
structure Table (key value : Type) where
  entries : List (key × value) := []
deriving DecidableEq, Repr, Inhabited

namespace Table

variable {key value : Type} [DecidableEq key]

def get? (table : Table key value) (name : key) : Option value :=
  table.entries.lookup name

def erase (table : Table key value) (name : key) : Table key value :=
  ⟨table.entries.filter fun entry => entry.1 != name⟩

def insert (table : Table key value) (name : key) (content : value) : Table key value :=
  ⟨(name, content) :: (table.erase name).entries⟩

end Table
end TokenAuthority
