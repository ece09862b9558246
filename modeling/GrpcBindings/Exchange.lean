import GrpcBindings.Disk
import GrpcBindings.Response
import GrpcBindings.RunError

/-!
The exchange with a schema compiler: one request on the input of a channel, one answer on its
output.
-/

namespace GrpcBindings
namespace Exchange

variable {m : Type → Type} [Monad m]

/-- An operation of the system whose reason for failing becomes an error. -/
def attempt {α : Type} (operation : m (Except Text α)) (error : Text → RunError) :
    ExceptT RunError m α := do
  match ← operation with
  | .ok a => return a
  | .error reason => throw (error reason)

def serve (channel : Channel m) : ExceptT RunError m Unit := do
  let octets ← attempt channel.receive .receive
  match Request.decode octets with
  | .error error => throw (.request error)
  | .ok request =>
      attempt (channel.send request.respond.encode) .send
      attempt channel.flush .flush

end Exchange
end GrpcBindings
