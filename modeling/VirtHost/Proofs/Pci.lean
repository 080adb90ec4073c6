import VirtHost.Pci
import VirtHost.Proofs.Text.Numeral
import VirtHost.Proofs.Text.Scan

/-! # Addresses in attributes

An attribute value of an address is read back as the number that was written.

* `Pci.Address.readNumeral?_hexValue`: one number.
* `Pci.Address.ofHexFields_hexValue`: an address.
-/

namespace VirtHost.Pci.Address
open Text
set_option autoImplicit false

theorem forall_mem_hexValue {p : Char → Prop} (hx : p 'x') (hdigits : ∀ d < 16, p (digitChar d))
    (n : Nat) : ∀ c ∈ (hexValue n).toList, p c := by
  intro c hc
  rw [hexValue, String.toList_ofList] at hc
  rcases List.mem_cons.1 hc with rfl | hc
  · exact hdigits 0 (by decide)
  · rcases List.mem_cons.1 hc with rfl | hc
    · exact hx
    · exact forall_mem_zeroFill (by decide) hdigits 1 n c hc

theorem hexDigits_hexValue (n : Nat) : hexDigits (hexValue n).toList = hexadecimal 1 n := by
  have hblank : ∀ c ∈ (hexValue n).toList, isBlank c = false :=
    forall_mem_hexValue (by decide) (by decide) n
  rw [hexDigits, trim_of_forall hblank, hexValue, String.toList_ofList]
  rfl

theorem readNumeral?_hexValue {limit n : Nat} (h : n ≤ limit) :
    readNumeral? 16 limit (hexDigits (hexValue n).toList) = some n := by
  rw [hexDigits_hexValue]
  exact readNumeral?_hexadecimal 1 h

theorem ofHexFields_hexValue (a : Address) :
    ofHexFields (hexValue a.domain.toNat) (hexValue a.bus.toNat) (hexValue a.slot.toNat)
      (hexValue a.function.toNat) = .ok a := by
  have hdomain : a.domain.toNat ≤ limit32 := Nat.le_of_lt_succ a.domain.toNat_lt
  have hbus : a.bus.toNat ≤ limit8 := Nat.le_of_lt_succ a.bus.toNat_lt
  have hslot : a.slot.toNat ≤ limit8 := Nat.le_of_lt_succ a.slot.toNat_lt
  have hfunction : a.function.toNat ≤ limit8 := Nat.le_of_lt_succ a.function.toNat_lt
  have hnumerals : ofNumerals? (hexDigits (hexValue a.domain.toNat).toList)
      (hexDigits (hexValue a.bus.toNat).toList) (hexDigits (hexValue a.slot.toNat).toList)
      (hexDigits (hexValue a.function.toNat).toList) = some a := by
    rw [ofNumerals?, readNumeral?_hexValue hdomain, readNumeral?_hexValue hbus,
      readNumeral?_hexValue hslot, readNumeral?_hexValue hfunction]
    simp
  rw [ofHexFields, hnumerals]

end VirtHost.Pci.Address
