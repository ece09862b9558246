import GrpcBindings.Text

/-!
The stages a module passes through while it is written, in order. Nothing follows the last.
-/

namespace GrpcBindings

inductive Stage where
  | start
  | header
  | imports
  | messageBindings
  | serviceContracts
  | done
  deriving DecidableEq, Repr, Inhabited

namespace Stage

def next : Stage → Stage
  | start => header
  | header => imports
  | imports => messageBindings
  | messageBindings => serviceContracts
  | serviceContracts | done => done

def name : Stage → Text
  | start => "start"
  | header => "header"
  | imports => "imports"
  | messageBindings => "message bindings"
  | serviceContracts => "service contracts"
  | done => "done"

/-- A stage and those that follow it, one for each step. -/
def walk (stage : Stage) : (steps : Nat) → List Stage
  | 0 => [stage]
  | steps + 1 => stage :: stage.next.walk steps

/-- Every stage, from the first to the last. -/
def all : List Stage :=
  start.walk 5

end Stage
end GrpcBindings
