import VmBridge.Proofs.PositionalNotation
import VmBridge.Proofs.WorldHistory

/-!
# What the addresses of created accounts are made of

The address of a created account is the end of the hash of some bytes: the
sender and its nonce, or for a creation with a salt a tag, the sender, the salt
and the hash of the code.  All fields have fixed sizes, so the bytes determine
them, and their number tells the two kinds apart.  Two addresses can then
coincide only where the hash collides.
-/

namespace VmBridge

theorem bytesOfUInt64_inj {value other : UInt64} :
    bytesOfUInt64 value = bytesOfUInt64 other ↔ value = other := by
  refine ⟨fun same => ?_, congrArg _⟩
  have read (value : UInt64) : ofBigEndian (bytesOfUInt64 value) = value.toNat := by
    rw [bytesOfUInt64, ofBigEndian_bigEndian]
    exact Nat.mod_eq_of_lt value.toNat_lt
  apply UInt64.toNat_inj.mp
  rw [← read value, ← read other, same]

theorem length_bytesOfUInt64 (value : UInt64) : (bytesOfUInt64 value).length = 8 :=
  length_bigEndian 8 value.toNat

/-- Bytes that begin with a field of a fixed size determine the field. -/
theorem FixedBytes.toList_append_inj {size : Nat} {field other : FixedBytes size}
    {rest later : Bytes} :
    field.toList ++ rest = other.toList ++ later ↔ field = other ∧ rest = later := by
  constructor
  · intro same
    have sizes : field.toList.length = other.toList.length :=
      field.length_toList.trans other.length_toList.symm
    obtain ⟨fields, rests⟩ := List.append_inj same sizes
    exact ⟨FixedBytes.ext_toList fields, rests⟩
  · rintro ⟨rfl, rfl⟩
    rfl

theorem FixedBytes.toList_inj {size : Nat} {field other : FixedBytes size} :
    field.toList = other.toList ↔ field = other :=
  ⟨FixedBytes.ext_toList, congrArg _⟩

def World.nonce (world : World) (address : Address) : UInt64 := (world.account address).nonce

/-- A creation without a salt: who creates, under which nonce. -/
structure Creation where
  sender : Address
  nonce : UInt64
deriving DecidableEq

namespace Creation

/-- The bytes whose hash ends with the address of the created account. -/
def preimage (creation : Creation) : Bytes :=
  creation.sender.toList ++ bytesOfUInt64 creation.nonce

/-- The creating and the created account. -/
def accounts (creation : Creation) : Address × Option Address :=
  (creation.sender, some (.leftPadded 20 (keccak256 creation.preimage).toList))

theorem length_preimage (creation : Creation) : creation.preimage.length = 28 := by
  rw [preimage, List.length_append, creation.sender.length_toList, length_bytesOfUInt64]

theorem preimage_inj {creation other : Creation} :
    creation.preimage = other.preimage ↔ creation = other := by
  obtain ⟨sender, nonce⟩ := creation
  rw [preimage, preimage, FixedBytes.toList_append_inj, bytesOfUInt64_inj, mk.injEq]

end Creation

namespace Message

variable {message other : Message}

/-- The creation that a message without a salt asks for in a world. -/
def creation (message : Message) (world : World) : Creation :=
  ⟨message.sender, world.nonce message.sender⟩

/-- The bytes whose hash ends with the address of the account that a message
creates in a world. -/
def preimage (message : Message) (world : World) : Bytes :=
  match message.kind with
  | .create2 =>
      0xff :: message.sender.toList ++ message.salt.toList ++ (keccak256 message.input).toList
  | _ => (message.creation world).preimage

/-- A creation acts on the account at the end of the hash. -/
theorem target_eq (creates : message.kind.isCreate = true) (world : World) :
    message.target world = .leftPadded 20 (keccak256 (message.preimage world)).toList := by
  cases kind_eq : message.kind with
  | create | create2 =>
      rw [target, preimage, kind_eq]
      rfl
  | call | callCode | delegateCall => simp [kind_eq, CallKind.isCreate] at creates

theorem preimage_of_create (plain : message.kind = .create) (world : World) :
    message.preimage world = (message.creation world).preimage := by
  rw [preimage, plain]

theorem preimage_of_create2 (salted : message.kind = .create2) (world : World) :
    message.preimage world =
      0xff :: (message.sender.toList ++
        (message.salt.toList ++ (keccak256 message.input).toList)) := by
  rw [preimage, salted]
  simp only [List.cons_append, List.append_assoc]

/-- The bytes of two creations with salts are the same exactly if sender, salt and
the hash of the code are. -/
theorem preimage_eq_iff_of_create2 (salted : message.kind = .create2)
    (salted' : other.kind = .create2) (world world' : World) :
    message.preimage world = other.preimage world' ↔
      message.sender = other.sender ∧ message.salt = other.salt ∧
        keccak256 message.input = keccak256 other.input := by
  rw [preimage_of_create2 salted, preimage_of_create2 salted', List.cons.injEq,
    FixedBytes.toList_append_inj, FixedBytes.toList_append_inj, FixedBytes.toList_inj]
  exact and_iff_right rfl

theorem length_preimage_of_create (plain : message.kind = .create) (world : World) :
    (message.preimage world).length = 28 := by
  rw [preimage_of_create plain, Creation.length_preimage]

theorem length_preimage_of_create2 (salted : message.kind = .create2) (world : World) :
    (message.preimage world).length = 85 := by
  rw [preimage_of_create2 salted, List.length_cons, List.length_append, List.length_append,
    message.sender.length_toList, message.salt.length_toList, FixedBytes.length_toList]

/-- A creation without a salt never hashes the bytes of one with a salt. -/
theorem preimage_ne (plain : message.kind = .create) (salted : other.kind = .create2)
    (world world' : World) : message.preimage world ≠ other.preimage world' := by
  intro same
  have sizes := congrArg List.length same
  rw [length_preimage_of_create plain, length_preimage_of_create2 salted] at sizes
  cases sizes

end Message

end VmBridge
