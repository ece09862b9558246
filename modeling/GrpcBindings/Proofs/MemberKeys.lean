import Mathlib.Data.List.Nodup
import GrpcBindings.Proofs.Correspondence
import GrpcBindings.Proofs.ServerContract

/-!
Keys of the members that stand for the methods of a service. A key is the name of its method with a
lower first letter, so methods whose names differ only in the case of that letter share a key. Names
that all begin with capitals of the Latin alphabet have distinct keys if they are distinct, and so
have names that all begin with small letters.
-/

namespace GrpcBindings
namespace Text

/-- The capitals of the Latin alphabet are the first run. -/
theorem lowerCase_of_isUpper {c : Char} (upper : c.isUpper = true) :
    ∃ lower : Char, lowerCase c = [lower] ∧ lower.toNat = c.toNat + 32 := by
  have bounds : 0x41 ≤ c.toNat ∧ c.toNat ≤ 0x5a :=
    (of_decide_eq_true upper).imp UInt32.le_iff_toNat_le.mp UInt32.le_iff_toNat_le.mp
  have plain : c ≠ '\u0130' := by
    rintro rfl
    exact absurd upper (by decide)
  have first : (⟨0x41, 0x5a, 1, 0x61⟩ : CapitalRun).lower? c =
      some (Char.ofNat (0x61 + (c.toNat - 0x41))) :=
    if_pos ⟨bounds.1, bounds.2, Nat.mod_one _⟩
  refine ⟨Char.ofNat (0x61 + (c.toNat - 0x41)), ?_, ?_⟩
  · rw [lowerCase, if_neg plain, capitalRuns, List.findSome?_cons, first]
    rfl
  · have valid : (0x61 + (c.toNat - 0x41)).isValidChar := .inl (by omega)
    rw [Char.ofNat, dif_pos valid]
    show 0x61 + (c.toNat - 0x41) = c.toNat + 32
    omega

theorem lowerCase_of_isLower {c : Char} (lower : c.isLower = true) : lowerCase c = [c] := by
  have bounds : 0x61 ≤ c.toNat ∧ c.toNat ≤ 0x7a := by
    obtain ⟨above, below⟩ := Bool.and_eq_true_iff.mp lower
    exact ⟨UInt32.le_iff_toNat_le.mp (of_decide_eq_true above),
      UInt32.le_iff_toNat_le.mp (of_decide_eq_true below)⟩
  have plain : c ≠ '\u0130' := by
    rintro rfl
    exact absurd lower (by decide)
  have outside : ∀ run ∈ capitalRuns, run.last < 0x61 ∨ 0x7a < run.first := by decide +kernel
  have none : capitalRuns.findSome? (·.lower? c) = none := by
    rw [List.findSome?_eq_none_iff]
    intro run member
    have apart := outside run member
    exact if_neg (by omega)
  rw [lowerCase, if_neg plain, none]
  rfl

end Text

/-- Behind a capital the letters are as they were. -/
theorem eq_of_lowerFirst_eq {first second : Text} (upper : ∀ c ∈ first.head?, c.isUpper = true)
    (otherUpper : ∀ c ∈ second.head?, c.isUpper = true)
    (same : lowerFirst first = lowerFirst second) :
    first = second := by
  cases first with
  | nil =>
      cases second with
      | nil => rfl
      | cons d otherRest =>
          obtain ⟨_, spelled, _⟩ := Text.lowerCase_of_isUpper (otherUpper d rfl)
          rw [lowerFirst, lowerFirst, spelled] at same
          cases same
  | cons c rest =>
      obtain ⟨lower, spelled, above⟩ := Text.lowerCase_of_isUpper (upper c rfl)
      cases second with
      | nil =>
          rw [lowerFirst, lowerFirst, spelled] at same
          cases same
      | cons d otherRest =>
          obtain ⟨otherLower, otherSpelled, otherAbove⟩ :=
            Text.lowerCase_of_isUpper (otherUpper d rfl)
          rw [lowerFirst, lowerFirst, spelled, otherSpelled] at same
          obtain ⟨letters, rests⟩ := List.cons.inj same
          rw [letters, otherAbove, Nat.add_right_cancel_iff, Char.toNat_inj] at above
          rw [← above]
          exact congrArg (d :: ·) rests

theorem lowerFirst_of_isLower {name : Text} (lower : ∀ c ∈ name.head?, c.isLower = true) :
    lowerFirst name = name := by
  cases name with
  | nil => rfl
  | cons c rest =>
      rw [lowerFirst, Text.lowerCase_of_isLower (lower c rfl)]
      rfl

namespace Key

theorem ofName_injective : Function.Injective ofName := by
  intro first second same
  unfold ofName at same
  split at same <;> split at same <;> simp_all

/-- Different keys show as one text only if quotation marks stand around one and in the other. -/
theorem eq_or_quoted_of_text_eq {first second : Text}
    (same : (ofName first).text = (ofName second).text) :
    ofName first = ofName second ∨
      (ofName first = quoted "new" ∧ ofName second = bare "'new'") ∨
      (ofName first = bare "'new'" ∧ ofName second = quoted "new") := by
  by_cases new : first = "new"
  · by_cases otherNew : second = "new"
    · exact .inl (by rw [new, otherNew])
    · have marks : second = "'new'" := by
        rw [ofName, ofName, if_pos new, if_neg otherNew, new] at same
        exact same.symm
      rw [new, marks]
      exact .inr (.inl ⟨rfl, rfl⟩)
  · by_cases otherNew : second = "new"
    · have marks : first = "'new'" := by
        rw [ofName, ofName, if_neg new, if_pos otherNew, otherNew] at same
        exact same
      rw [marks, otherNew]
      exact .inr (.inr ⟨rfl, rfl⟩)
    · rw [ofName, ofName, if_neg new, if_neg otherNew] at same
      have same : first = second := same
      exact .inl (by rw [same])

theorem map_text_nodup_iff (names : List Text) :
    ((names.map ofName).map text).Nodup ↔
      (names.map ofName).Nodup ∧
        ¬ (quoted "new" ∈ names.map ofName ∧ bare "'new'" ∈ names.map ofName) := by
  constructor
  · intro distinct
    refine ⟨distinct.of_map text, ?_⟩
    rintro ⟨inQuotes, withMarks⟩
    have same := List.inj_on_of_nodup_map distinct inQuotes withMarks rfl
    cases same
  · rintro ⟨distinct, apart⟩
    rw [List.nodup_map_iff_inj_on distinct]
    simp only [List.forall_mem_map]
    intro first member second otherMember same
    have key : ofName first ∈ names.map ofName := List.mem_map_of_mem member
    have otherKey : ofName second ∈ names.map ofName := List.mem_map_of_mem otherMember
    rcases eq_or_quoted_of_text_eq same with same | ⟨inQuotes, withMarks⟩ | ⟨withMarks, inQuotes⟩
    · exact same
    · exact absurd ⟨inQuotes ▸ key, withMarks ▸ otherKey⟩ apart
    · exact absurd ⟨inQuotes ▸ otherKey, withMarks ▸ key⟩ apart

end Key

namespace Member

def key? : Member → Option Key
  | .property key _ | .method key .. => some key
  | .comment _ | .construct .. | .gap => none

end Member

namespace ServiceContract

/-- The interface to implement and the table of a service have these keys, in this order. -/
structure HasKeys (service : Service) (items : List Item) (keys : List Key) : Prop where
  interface : ∃ members, interfaces items (implementationName service) = [members] ∧
    members.filterMap (·.key?) = keys
  table : ∃ entries, constants items (tableName service) = [.object entries] ∧
    entries.map (·.key) = keys

theorem filterMap_handlerMembers (contract : MethodContract) :
    contract.handlerMembers.filterMap (·.key?) = [contract.key] := by
  have commented (side : CommentSide) : (contract.comment side).filterMap (·.key?) = [] := by
    rw [MethodContract.comment]
    split <;> rfl
  rw [MethodContract.handlerMembers, List.filterMap_append, commented, List.nil_append]
  exact congrArg (contract.key :: ·) (commented .trailing)

theorem hasKeys_items (service : Service) (methods : List MethodContract) :
    HasKeys service (items service methods) (methods.map (·.key)) := by
  refine ⟨⟨_, interfaces_items service methods, ?_⟩, ⟨_, constants_tableName service methods, ?_⟩⟩
  · simp only [List.filterMap_flatMap, filterMap_handlerMembers, List.map_eq_flatMap]
  · rw [List.map_map]
    rfl

end ServiceContract

/-- The key of each method. -/
def Service.memberKeys (service : Service) : List Key :=
  (service.methods.map fun method => lowerFirst method.name).map .ofName

theorem Service.memberKeys_nodup_iff {service : Service}
    (distinct : (service.methods.map (·.name)).Nodup) :
    service.memberKeys.Nodup ↔
      ∀ first ∈ service.methods, ∀ second ∈ service.methods,
        lowerFirst first.name = lowerFirst second.name → first.name = second.name := by
  have lowered : service.methods.map (fun method => lowerFirst method.name) =
      (service.methods.map (·.name)).map lowerFirst := by
    rw [List.map_map]
    rfl
  rw [memberKeys, List.nodup_map_iff Key.ofName_injective, lowered,
    List.nodup_map_iff_inj_on distinct]
  simp only [List.forall_mem_map]

namespace Schema

open ServiceContract

variable {schema : Schema} {service : Service}

theorem hasKeys_of_contract {items : List Item}
    (found : schema.serviceContract service = .ok items) :
    HasKeys service items service.memberKeys := by
  obtain ⟨methods, made, rfl⟩ := serviceContract_eq_ok.mp found
  have keys : service.memberKeys = methods.map (·.key) := by
    rw [Service.memberKeys, List.map_map]
    apply map_eq_map_of_forall₂ (forall₂_of_mapM made)
    intro method contract made
    obtain ⟨_, _, _, _, rfl⟩ := MethodContract.ofMethod_eq_ok.mp made
    rfl
  rw [keys]
  exact hasKeys_items service methods

variable {descriptors : List FileDescriptor} {id : FileId}

/-- Methods with distinct names have distinct keys unless two of the names become one when their
first letters are lower-cased. As they are shown, a name with quotation marks can be taken for one
that is put in quotes. -/
theorem memberKeys_distinct_iff (accepted : ofDescriptors descriptors = .ok schema)
    (known : id.index < schema.files.length) (member : service ∈ (schema.file id).services)
    (distinct : (service.methods.map (·.name)).Nodup) :
    ∃ items keys, schema.serviceContract service = .ok items ∧ HasKeys service items keys ∧
      (keys.Nodup ↔
        ∀ first ∈ service.methods, ∀ second ∈ service.methods,
          lowerFirst first.name = lowerFirst second.name → first.name = second.name) ∧
      ((keys.map (·.text)).Nodup ↔
        keys.Nodup ∧ ¬ (Key.quoted "new" ∈ keys ∧ Key.bare "'new'" ∈ keys)) ∧
      ((∀ method ∈ service.methods, ∀ c ∈ method.name.head?, c.isUpper = true) → keys.Nodup) ∧
      ((∀ method ∈ service.methods, ∀ c ∈ method.name.head?, c.isLower = true) → keys.Nodup) := by
  obtain ⟨items, contract⟩ := serviceContract_of_service accepted known member
  have keys := Service.memberKeys_nodup_iff distinct
  refine ⟨items, _, contract, hasKeys_of_contract contract, keys, Key.map_text_nodup_iff _, ?_, ?_⟩
  · intro capitals
    rw [keys]
    intro first firstMember second secondMember same
    exact eq_of_lowerFirst_eq (capitals first firstMember) (capitals second secondMember) same
  · intro small
    rw [keys]
    intro first firstMember second secondMember same
    rwa [lowerFirst_of_isLower (small first firstMember),
      lowerFirst_of_isLower (small second secondMember)] at same

/-- A service has two methods whose names differ in the case of the first letter. -/
def mailbox : List FileDescriptor :=
  [
    {
      name := some "mail.proto", package := some "mail", dependencies := []
      messages := [.mk (some "Letter") []]
      services :=
        [
          {
            name := some "Mailbox"
            methods :=
              [
                {
                  name := some "Get", input := some ".mail.Letter", output := some ".mail.Letter"
                  clientStreaming := none, serverStreaming := none
                },
                {
                  name := some "get", input := some ".mail.Letter", output := some ".mail.Letter"
                  clientStreaming := none, serverStreaming := some true
                }
              ]
          }
        ]
      locations := none
    }
  ]

theorem memberKeys_distinct_iff_mailbox :
    ∃ schema service, ofDescriptors mailbox = .ok schema ∧ 0 < schema.files.length ∧
      service ∈ (schema.file ⟨0⟩).services ∧ (service.methods.map (·.name)).Nodup ∧
      ∃ items keys, schema.serviceContract service = .ok items ∧ HasKeys service items keys ∧
        (keys.Nodup ↔
          ∀ first ∈ service.methods, ∀ second ∈ service.methods,
            lowerFirst first.name = lowerFirst second.name → first.name = second.name) := by
  have accepted : ofDescriptors mailbox = .ok (Registry.listing mailbox).schemaOf := rfl
  have known : 0 < (Registry.listing mailbox).schemaOf.files.length := by decide
  have distinct : ∀ service ∈ ((Registry.listing mailbox).schemaOf.file ⟨0⟩).services,
      (service.methods.map (·.name)).Nodup := by
    decide
  obtain ⟨items, keys, contract, has, distinctIff, _⟩ :=
    memberKeys_distinct_iff accepted known List.mem_cons_self (distinct _ List.mem_cons_self)
  exact ⟨_, _, accepted, known, List.mem_cons_self, distinct _ List.mem_cons_self, items, keys,
    contract, has, distinctIff⟩

/-- The two methods have one key. -/
theorem mailbox_shares_key :
    ∃ schema service items keys, ofDescriptors mailbox = .ok schema ∧
      service ∈ (schema.file ⟨0⟩).services ∧ (service.methods.map (·.name)).Nodup ∧
      schema.serviceContract service = .ok items ∧ HasKeys service items keys ∧
      keys = [.bare "get", .bare "get"] ∧ ¬ keys.Nodup := by
  have accepted : ofDescriptors mailbox = .ok (Registry.listing mailbox).schemaOf := rfl
  have known : 0 < (Registry.listing mailbox).schemaOf.files.length := by decide
  obtain ⟨items, contract⟩ := serviceContract_of_service accepted known List.mem_cons_self
  have has := hasKeys_of_contract contract
  exact ⟨_, _, items, _, accepted, List.mem_cons_self, by decide, contract, has, rfl, by decide⟩

end Schema
end GrpcBindings
