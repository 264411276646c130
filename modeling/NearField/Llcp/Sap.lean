import NearField.Error
import NearField.Table

/-!
Service access points, the six-bit addresses of the link layer, and the address pair of a
connection. Addresses are ordered by local, then by remote access point.
-/

namespace NearField.Llcp

structure Sap where
  value : UInt8
  value_lt : value < 64
deriving DecidableEq, Repr

namespace Sap

def ofOctet (octet : UInt8) : Except Error Sap :=
  if h : octet < 64 then .ok ⟨octet, h⟩ else .error (.invalidSap octet)

def masked (octet : UInt8) : Sap :=
  ⟨octet &&& 0x3f, by
    rw [UInt8.lt_iff_toNat_lt]
    simp only [UInt8.toNat_and, UInt8.reduceToNat]
    exact Nat.lt_succ_of_le Nat.and_le_right⟩

def linkManagement : Sap := ⟨0x00, by decide⟩

def discovery : Sap := ⟨0x01, by decide⟩

def snep : Sap := ⟨0x04, by decide⟩

@[ext] theorem ext {a b : Sap} (h : a.value = b.value) : a = b := by
  cases a; cases b; simp_all

theorem toNat_lt (sap : Sap) : sap.value.toNat < 64 := UInt8.lt_iff_toNat_lt.mp sap.value_lt

instance : TableKey Sap where
  rank sap := sap.value.toNat
  rank_inj h := Sap.ext (UInt8.toNat_inj.mp h)

end Sap

/-- The two ends of a data link connection, seen from one of them. -/
structure LinkAddress where
  localSap : Sap
  remoteSap : Sap
deriving DecidableEq, Repr

namespace LinkAddress

instance : TableKey LinkAddress where
  rank address := address.localSap.value.toNat * 64 + address.remoteSap.value.toNat
  rank_inj := by
    intro a b h
    have ha := a.remoteSap.toNat_lt
    have hb := b.remoteSap.toNat_lt
    have first : a.localSap.value.toNat = b.localSap.value.toNat := by omega
    have second : a.remoteSap.value.toNat = b.remoteSap.value.toNat := by omega
    cases a
    cases b
    simp only [LinkAddress.mk.injEq]
    exact ⟨Sap.ext (UInt8.toNat_inj.mp first), Sap.ext (UInt8.toNat_inj.mp second)⟩

end LinkAddress

end NearField.Llcp
