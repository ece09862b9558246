import GrpcBindings.Text

/-!
The four ways in which a method exchanges messages. A mode is fixed by which of the two sides
sends a stream.
-/

namespace GrpcBindings

inductive CallMode where
  | unary
  | clientStreaming
  | serverStreaming
  | bidirectional
  deriving DecidableEq, Repr, Inhabited

namespace CallMode

def ofFlags : (client server : Bool) → CallMode
  | false, false => unary
  | true, false => clientStreaming
  | false, true => serverStreaming
  | true, true => bidirectional

def clientStreams : CallMode → Bool
  | clientStreaming | bidirectional => true
  | unary | serverStreaming => false

def serverStreams : CallMode → Bool
  | serverStreaming | bidirectional => true
  | unary | clientStreaming => false

def all : List CallMode :=
  [unary, clientStreaming, serverStreaming, bidirectional]

def description : CallMode → Text
  | unary => "unary"
  | clientStreaming => "client streaming"
  | serverStreaming => "server streaming"
  | bidirectional => "bidi streaming"

end CallMode
end GrpcBindings
