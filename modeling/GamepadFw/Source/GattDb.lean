import GamepadFw.Source.Api

/-!
# `gatt_db.c`

The attributes of the GATT database, as far as a client's writes depend on them: the permissions and
the kind of value. Handles count from 1, in the order of `bg_gattdb_data_attributes_map`.
-/

namespace GamepadFw

/-- `gatt_att_datatype`, the kinds the database uses. A client configuration has the flags a client
may set and the index of its characteristic in the dynamic mapping. -/
inductive AttDatatype where
  | const
  | dynamic
  | clientconfig (flags index : Nat)
  | user
  deriving DecidableEq, Repr

/-- `bg_gattdb_attribute`. -/
structure Attribute where
  permissions : UInt16
  datatype : AttDatatype
  deriving DecidableEq, Repr

/-- `bg_gattdb_data_attributes_map`. -/
def attributesMap : List Attribute :=
  [⟨0x801, .const⟩, ⟨0x801, .const⟩, ⟨0x800, .dynamic⟩, ⟨0x807, .clientconfig 0x02 0x00⟩,
   ⟨0x801, .const⟩, ⟨0x801, .dynamic⟩, ⟨0x801, .const⟩, ⟨0x803, .dynamic⟩, ⟨0x801, .const⟩,
   ⟨0x801, .const⟩, ⟨0x803, .dynamic⟩, ⟨0x801, .const⟩, ⟨0x801, .const⟩, ⟨0x801, .const⟩,
   ⟨0x801, .const⟩, ⟨0x801, .dynamic⟩, ⟨0x801, .const⟩, ⟨0x801, .dynamic⟩, ⟨0x801, .const⟩,
   ⟨0x801, .dynamic⟩, ⟨0x801, .const⟩, ⟨0x801, .dynamic⟩, ⟨0x801, .const⟩, ⟨0x801, .dynamic⟩,
   ⟨0x801, .const⟩, ⟨0x801, .dynamic⟩, ⟨0x801, .const⟩, ⟨0x801, .dynamic⟩, ⟨0x801, .const⟩,
   ⟨0x801, .dynamic⟩, ⟨0x801, .const⟩, ⟨0x801, .dynamic⟩, ⟨0x801, .const⟩, ⟨0x801, .const⟩,
   ⟨0x801, .const⟩, ⟨0x805, .dynamic⟩, ⟨0x801, .const⟩, ⟨0x801, .dynamic⟩,
   ⟨0x803, .clientconfig 0x01 0x0e⟩, ⟨0x801, .const⟩, ⟨0x801, .const⟩, ⟨0x801, .const⟩,
   ⟨0x801, .const⟩, ⟨0x801, .const⟩, ⟨0x811, .const⟩, ⟨0x801, .const⟩, ⟨0x804, .dynamic⟩,
   ⟨0x801, .const⟩, ⟨0x801, .const⟩, ⟨0x801, .dynamic⟩, ⟨0x801, .dynamic⟩,
   ⟨0x803, .clientconfig 0x01 0x11⟩, ⟨0x801, .const⟩, ⟨0x801, .const⟩, ⟨0x802, .user⟩]

/-- `bg_gattdb_data_attributes_dynamic_mapping_map`: the handles of the values a client can be told
of. -/
def dynamicMapping : List UInt16 :=
  [3, 6, 8, 11, 16, 18, 20, 22, 24, 26, 28, 30, 32, 36, 38, 47, 50, 51, 55]

/-- `gatt_att_perm_writable` or `gatt_att_perm_write_no_response`. -/
def Attribute.Writable (a : Attribute) : Prop := a.permissions &&& 0x0006 ≠ 0

instance (a : Attribute) : Decidable a.Writable := inferInstanceAs (Decidable (_ ≠ _))

/-- The attributes a client may write, with their handles. -/
def writableAttributes : List (UInt16 × Attribute) :=
  (attributesMap.zipIdx 1).filterMap fun p =>
    if p.1.Writable then some (UInt16.ofNat p.2, p.1) else none

/-- The event the stack raises when the client of `connection` writes an attribute; `config` is what
it writes when that is a client configuration. -/
def writeEvent (connection : UInt8) (handle : UInt16) (a : Attribute) (config : ClientConfig) :
    Evt :=
  match a.datatype with
  | .user => .gattServerUserWriteRequest connection handle
  | .clientconfig _ index =>
    .gattServerCharacteristicStatus connection (dynamicMapping.getD index 0) gattServerClientConfig
      config.flags
  | .const | .dynamic => .gattServerAttributeValue connection handle

/-- The events the client of `connection` can make the stack raise by writing attributes. -/
def writeEvents (connection : UInt8) : List Evt :=
  writableAttributes.flatMap fun p => ClientConfig.all.map (writeEvent connection p.1 p.2)

/-- The OTA control characteristic is the only user-type attribute a client may write. -/
theorem user_iff_otaControl : ∀ p ∈ writableAttributes,
    p.2.datatype = .user ↔ p.1 = gattdbOtaControl := by
  decide

end GamepadFw
