import GrpcBindings.Text.Utf8

/-!
What a program needs of the system it runs on: files that are loaded and saved, and a channel with
an input and an output. Whatever fails gives its reason as text.
-/

namespace GrpcBindings

structure Disk (m : Type → Type) where
  load : (path : Text) → m (Except Text Octets)
  /-- Creates directories, given from the innermost to the outermost, as far as they are missing. -/
  createDirectories : (paths : List Text) → m (Except Text Unit)
  save : (path : Text) → Octets → m (Except Text Unit)

structure Channel (m : Type → Type) where
  receive : m (Except Text Octets)
  send : Octets → m (Except Text Unit)
  flush : m (Except Text Unit)

end GrpcBindings
