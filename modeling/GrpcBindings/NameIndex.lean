import GrpcBindings.Text

/-!
What names lead to. A name that is put into an index again leads to what is put there then, and
whoever puts it is told what it led to before.
-/

namespace GrpcBindings

structure NameIndex (α : Type) where
  /-- What was put last comes first. -/
  entries : List (Text × α) := []
  deriving DecidableEq, Repr

namespace NameIndex

variable {α : Type}

def find? (index : NameIndex α) (name : Text) : Option α :=
  index.entries.lookup name

/-- The index with a name put into it, and what the name led to before. -/
def insert (index : NameIndex α) (name : Text) (a : α) : NameIndex α × Option α :=
  ({ entries := (name, a) :: index.entries }, index.find? name)

end NameIndex
end GrpcBindings
