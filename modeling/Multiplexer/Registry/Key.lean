/-! Registration keys. A key names a slot and the generation in which the slot was filled, and packs
into the 64 bits that facilities carry with every event. -/
namespace Multiplexer

/-- Only the packing into 64 bits is modelled. Targets with pointers of 32 bits cut the generation to
8 of them for kqueues and completion ports, where keys then repeat sooner. -/
structure Key where
  index : UInt32
  generation : UInt32
  deriving DecidableEq, Repr

namespace Key

/-- The generation in the high half, the slot in the low half. -/
def pack (k : Key) : UInt64 := .ofNat (k.generation.toNat * 0x100000000 + k.index.toNat)

def unpack (raw : UInt64) : Key := ⟨.ofNat raw.toNat, .ofNat (raw.toNat / 0x100000000)⟩

theorem toNat_pack (k : Key) :
    k.pack.toNat = k.generation.toNat * 0x100000000 + k.index.toNat := by
  have hg := k.generation.toNat_lt
  have hi := k.index.toNat_lt
  simp only [pack, UInt64.toNat_ofNat']
  omega

@[simp] theorem unpack_pack (k : Key) : unpack k.pack = k := by
  have hi := k.index.toNat_lt
  have hg := k.generation.toNat_lt
  obtain ⟨i, g⟩ := k
  simp only [unpack, toNat_pack, mk.injEq, ← UInt32.toNat_inj, UInt32.toNat_ofNat'] at *
  omega

theorem pack_unpack (raw : UInt64) : (unpack raw).pack = raw := by
  have h := raw.toNat_lt
  simp only [unpack, ← UInt64.toNat_inj, toNat_pack, UInt32.toNat_ofNat']
  omega

theorem pack_injective {a b : Key} (h : a.pack = b.pack) : a = b := by
  rw [← unpack_pack a, h, unpack_pack]

def describe (k : Key) : String :=
  "Key \x7b index: " ++ toString k.index ++ ", generation: " ++ toString k.generation ++ " \x7d"

end Key
end Multiplexer
