import GrpcBindings.Text.Utf8
import GrpcBindings.Wire.Kind
import GrpcBindings.Wire.Record
import GrpcBindings.Wire.Varint

/-!
Decoding of messages. Lengths are measured against the end of the whole input, and a message ends
where its fields reach or pass the end that its length gives. Messages and groups may nest to a
depth that is given as the number of levels left.
-/

namespace GrpcBindings
namespace Wire

structure FieldKey where
  number : Nat
  wireType : WireType
  deriving DecidableEq, Repr

def fieldKey (key : Nat) : Except Fault FieldKey :=
  if UInt32.size ≤ key then .error (.invalidKey key)
  else
    match WireType.ofNat? (key % 8) with
    | none => .error (.invalidWireType (key % 8))
    | some wireType =>
        if key / 8 = 0 then .error (.invalidFieldNumber 0) else .ok ⟨key / 8, wireType⟩

def readKey (input : Input) : Except Fault (Read FieldKey input) := do
  let read ← readVarint input
  return { read with value := ← fieldKey read.value }

/-- So many octets, if the input has them. -/
def readFixed (count : Nat) (input : Input) : Except Fault (Read Octets input) :=
  if h : 0 < count ∧ count ≤ input.size then
    .ok ⟨input.octets.take count, input.drop count, by simp only [Input.drop]; omega⟩
  else .error .underflow

/-- A length, and a check that the input goes on for so long. -/
def readLength (input : Input) : Except Fault (Read Nat input) := do
  let read ← readVarint input
  if read.value ≤ read.rest.size then return read else throw .underflow

def readDelimited (input : Input) : Except Fault (Read Octets input) := do
  let read ← readLength input
  return {
    value := read.rest.octets.take read.value
    rest := read.rest.drop read.value
    shorter := by have := read.shorter; simp only [Input.drop]; omega
  }

mutual

/-- Skips the content of a field that is not known. -/
def skipField (levels : Nat) (key : FieldKey) (input : Input) : Except Fault (Read Unit input) :=
  if levels = 0 then .error .nestedTooDeeply
  else
    match key.wireType with
    | .varint => do return { ← readVarint input with value := () }
    | .fixed64 => do return { ← readFixed 8 input with value := () }
    | .lengthDelimited => do return { ← readDelimited input with value := () }
    | .startGroup => skipGroup (levels - 1) key.number input
    | .endGroup => .error .unexpectedEndGroup
    | .fixed32 => do return { ← readFixed 4 input with value := () }
termination_by 2 * input.size + 1

/-- Skips the fields of a group and the key that ends it. -/
def skipGroup (levels number : Nat) (input : Input) : Except Fault (Read Unit input) := do
  let key ← readKey input
  have := key.shorter
  if key.value.wireType = .endGroup then
    if key.value.number = number then return { key with value := () }
    else throw .unexpectedEndGroup
  else
    let field ← skipField levels key.value key.rest
    have := field.shorter
    let others ← skipGroup levels number field.rest
    return { others with shorter := by have := others.shorter; omega }
termination_by 2 * input.size

end

/-- The low 32 bits of a varint as a signed number. -/
def int32 (n : Nat) : Int :=
  (n : Int).bmod UInt32.size

/-- Numbers up to the point where only `stop` octets are left. -/
def readPacked (stop : Nat) (input : Input) :
    Except Fault (List Int × { rest : Input // rest.size ≤ input.size }) :=
  if input.size ≤ stop then .ok ([], ⟨input, Nat.le_refl _⟩)
  else do
    let read ← readVarint input
    have := read.shorter
    let (others, rest) ← readPacked stop read.rest
    return (int32 read.value :: others, ⟨rest.1, by have := rest.2; omega⟩)
termination_by input.size

def expect (expected : WireType) (key : FieldKey) : Except Fault Unit :=
  if key.wireType = expected then .ok () else .error (.unexpectedWireType key.wireType expected)

def readText (key : FieldKey) (input : Input) : Except Fault (Read Payload input) := do
  expect .lengthDelimited key
  let read ← readDelimited input
  match Text.ofUtf8? read.value with
  | some content => return { read with value := .text content }
  | none => throw .notUtf8

def readFlag (key : FieldKey) (input : Input) : Except Fault (Read Payload input) := do
  expect .varint key
  let read ← readVarint input
  return { read with value := .flag (read.value ≠ 0) }

/-- Numbers stand alone or packed. -/
def readIntegers (key : FieldKey) (input : Input) : Except Fault (Read Payload input) := do
  if key.wireType = .lengthDelimited then
    let length ← readLength input
    let stop := length.rest.size - length.value
    let (content, rest) ← readPacked stop length.rest
    if rest.1.size = stop then
      return {
        value := .integers content
        rest := rest.1
        shorter := by have := length.shorter; have := rest.2; omega
      }
    else throw .lengthExceeded
  else
    expect .varint key
    let read ← readVarint input
    return { read with value := .integers [int32 read.value] }

/-- A fault that lies inside no known field of the message being read. -/
def here {α : Type} (result : Except Fault α) : Except DecodeError α :=
  result.mapError fun fault => { fault }

mutual

/-- The fields of a message up to the point where only `stop` octets are left. -/
def readFields (kind : Kind) (levels stop : Nat) (input : Input) :
    Except DecodeError (Record × { rest : Input // rest.size ≤ input.size }) :=
  if input.size ≤ stop then .ok (.nil, ⟨input, Nat.le_refl _⟩)
  else do
    let key ← here (readKey input)
    have := key.shorter
    match kind.field? key.value.number with
    | none =>
        let skipped ← here (skipField levels key.value key.rest)
        have := skipped.shorter
        let (others, rest) ← readFields kind levels stop skipped.rest
        return (others, ⟨rest.1, by have := rest.2; omega⟩)
    | some known =>
        let field ← (readField known.shape levels key.value key.rest).mapError
          (.inside ⟨kind.name, known.name⟩)
        have := field.shorter
        let (others, rest) ← readFields kind levels stop field.rest
        return (.cons key.value.number field.value others, ⟨rest.1, by have := rest.2; omega⟩)
termination_by 2 * input.size

def readField (shape : Shape) (levels : Nat) (key : FieldKey) (input : Input) :
    Except DecodeError (Read Payload input) :=
  match shape with
  | .text => here (readText key input)
  | .flag => here (readFlag key input)
  | .integers => here (readIntegers key input)
  | .record kind => do
      here (expect .lengthDelimited key)
      if levels = 0 then throw { fault := .nestedTooDeeply }
      let length ← here (readLength input)
      have := length.shorter
      let stop := length.rest.size - length.value
      let (content, rest) ← readFields kind (levels - 1) stop length.rest
      if rest.1.size = stop then
        return {
          value := .record content
          rest := rest.1
          shorter := by have := rest.2; omega
        }
      else throw { fault := .lengthExceeded }
termination_by 2 * input.size + 1

end

/-- How deep messages may nest below the outermost. -/
def nestingLimit : Nat := 100

def decode (kind : Kind) (octets : Octets) : Except DecodeError Record := do
  return (← readFields kind nestingLimit 0 (.ofOctets octets)).1

end Wire
end GrpcBindings
