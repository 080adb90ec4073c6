import VirtHost.Settings

/-! # Shares of memory

* `RamPolicy.Accepted`: the policy of settings that are not refused.
* `RamPolicy.Share`: a share within the limits that fits, is above the reserve where it can be, and is
  as large as that allows.
* `RamPolicy.perVm_eq_some_iff`, `RamPolicy.perVm_eq_none_iff`: which share is given, and when none is.
* `RamPolicy.Words.perVm?`: the same share in numbers of 64 bits, every step of which is checked.
* `RamPolicy.perVm_shares`: all of that, and how the share depends on the memory and on the number of
  virtual machines.
-/

namespace VirtHost.RamPolicy
set_option autoImplicit false

variable {policy : RamPolicy} {free vms ram : Nat}

/-! ## Policies -/

/-- Some settings with the policy are not refused. -/
def Accepted (policy : RamPolicy) : Prop :=
  ∃ s : Settings, s.ram = policy ∧ s.validate = .ok ()

theorem accepted_iff : policy.Accepted ↔ policy.least ≤ policy.most := by
  constructor
  · rintro ⟨s, rfl, hvalid⟩
    unfold Settings.validate at hvalid
    split at hvalid
    · cases hvalid
    · split at hvalid
      · cases hvalid
      · split at hvalid
        · cases hvalid
        · rename_i hlimits
          exact Nat.le_of_not_lt hlimits
  · intro hlimits
    refine ⟨{ ram := policy }, rfl, ?_⟩
    simp [Settings.validate, Nat.not_lt.2 hlimits]

/-! ## Shares -/

/-- The share of each of `vms` virtual machines. -/
structure Share (policy : RamPolicy) (free vms ram : Nat) : Prop where
  least_le : policy.least ≤ ram
  le_most : ram ≤ policy.most
  fits : ram * vms ≤ free
  reserved : policy.least < ram → ram * vms + policy.reserve ≤ free
  largest : ram < policy.most → free < (ram + 1) * vms + policy.reserve

/-- An equal share of what is left above the reserve, kept within the limits. -/
def limited (policy : RamPolicy) (free vms : Nat) : Nat :=
  min policy.most (max policy.least ((free - policy.reserve) / vms))

theorem perVm_eq (policy : RamPolicy) (free vms : Nat) :
    policy.perVm free vms = if policy.limited free (max vms 1) * max vms 1 ≤ free
      then some (policy.limited free (max vms 1)) else none :=
  rfl

theorem le_limited (hlimits : policy.least ≤ policy.most) (free vms : Nat) :
    policy.least ≤ policy.limited free vms :=
  Nat.le_min.2 ⟨hlimits, Nat.le_max_left _ _⟩

theorem limited_reserved (hvms : 0 < vms) (h : policy.least < policy.limited free vms) :
    policy.limited free vms * vms + policy.reserve ≤ free := by
  have hle : policy.limited free vms ≤ (free - policy.reserve) / vms := by
    unfold limited at h ⊢
    omega
  have hproduct := (Nat.le_div_iff_mul_le hvms).1 hle
  have hpos : 0 < policy.limited free vms * vms := Nat.mul_pos (by omega) hvms
  omega

theorem limited_largest (hvms : 0 < vms) (h : policy.limited free vms < policy.most) :
    free < (policy.limited free vms + 1) * vms + policy.reserve := by
  have hlt : (free - policy.reserve) / vms < policy.limited free vms + 1 := by
    unfold limited at h ⊢
    omega
  have hproduct := (Nat.div_lt_iff_lt_mul hvms).1 hlt
  omega

theorem limited_fits_iff (hlimits : policy.least ≤ policy.most) (hvms : 0 < vms) :
    policy.limited free vms * vms ≤ free ↔ policy.least * vms ≤ free := by
  have hleast := le_limited hlimits free vms
  constructor
  · intro hfits
    exact Nat.le_trans (Nat.mul_le_mul_right vms hleast) hfits
  · intro hfits
    by_cases hmore : policy.least < policy.limited free vms
    · have hreserved := limited_reserved hvms hmore
      omega
    · have heq : policy.limited free vms = policy.least := by omega
      rwa [heq]

theorem share_limited (hlimits : policy.least ≤ policy.most) (hvms : 0 < vms)
    (hfits : policy.limited free vms * vms ≤ free) :
    policy.Share free vms (policy.limited free vms) where
  least_le := le_limited hlimits free vms
  le_most := Nat.min_le_left _ _
  fits := hfits
  reserved := limited_reserved hvms
  largest := limited_largest hvms

theorem Share.le {more fewer larger : Nat} (h : policy.Share free vms ram)
    (h' : policy.Share more fewer larger) (hmore : free ≤ more) (hfewer : fewer ≤ vms) :
    ram ≤ larger := by
  apply Nat.le_of_not_lt
  intro hlt
  have hlarger : larger + 1 ≤ ram := by omega
  have hmost := h.le_most
  have hleast := h'.least_le
  have hlargest := h'.largest (by omega)
  have hreserved := h.reserved (by omega)
  have hproduct : (larger + 1) * fewer ≤ ram * vms := Nat.mul_le_mul hlarger hfewer
  omega

theorem perVm_eq_some_iff (hlimits : policy.least ≤ policy.most) :
    policy.perVm free vms = some ram ↔ policy.Share free (max vms 1) ram := by
  have hvms : 0 < max vms 1 := by omega
  rw [perVm_eq]
  constructor
  · intro hram
    split at hram
    · rename_i hfits
      obtain rfl := Option.some.inj hram
      exact share_limited hlimits hvms hfits
    · cases hram
  · intro hshare
    have hfits : policy.limited free (max vms 1) * max vms 1 ≤ free :=
      (limited_fits_iff hlimits hvms).2
        (Nat.le_trans (Nat.mul_le_mul_right _ hshare.least_le) hshare.fits)
    have hlimited := share_limited hlimits hvms hfits
    have heq : policy.limited free (max vms 1) = ram :=
      Nat.le_antisymm (hlimited.le hshare (Nat.le_refl _) (Nat.le_refl _))
        (hshare.le hlimited (Nat.le_refl _) (Nat.le_refl _))
    rw [if_pos hfits, heq]

theorem perVm_eq_none_iff (hlimits : policy.least ≤ policy.most) :
    policy.perVm free vms = none ↔ free < policy.least * max vms 1 := by
  have hvms : 0 < max vms 1 := by omega
  rw [perVm_eq, ← Nat.not_le, ← limited_fits_iff hlimits hvms]
  split <;> simp_all

/-- More memory and fewer virtual machines take no share away and make none smaller. -/
theorem exists_perVm_of_le {more fewer : Nat} (hlimits : policy.least ≤ policy.most)
    (hmore : free ≤ more) (hfewer : fewer ≤ vms) (hram : policy.perVm free vms = some ram) :
    ∃ larger, policy.perVm more fewer = some larger ∧ ram ≤ larger := by
  have hshare := (perVm_eq_some_iff hlimits).1 hram
  cases hlarger : policy.perVm more fewer with
  | none =>
    have hlacks := (perVm_eq_none_iff hlimits).1 hlarger
    have hproduct : policy.least * max fewer 1 ≤ ram * max vms 1 :=
      Nat.mul_le_mul hshare.least_le (by omega)
    have hfits := hshare.fits
    omega
  | some larger =>
    exact ⟨larger, rfl, hshare.le ((perVm_eq_some_iff hlimits).1 hlarger) hmore (by omega)⟩

/-! ## Numbers of 64 bits -/

/-- A policy in numbers of 64 bits. -/
structure Words where
  reserve : UInt64
  least : UInt64
  most : UInt64

namespace Words

def toPolicy (w : Words) : RamPolicy :=
  ⟨w.reserve.toNat, w.least.toNat, w.most.toNat⟩

/-- A difference that is not below zero. -/
def difference (a b : UInt64) : UInt64 :=
  if b ≤ a then a - b else 0

/-- A quotient, unless it is one by zero. -/
def quotient? (a b : UInt64) : Option UInt64 :=
  if b = 0 then none else some (a / b)

/-- A number kept within limits, unless they cross. -/
def clamp? (least most a : UInt64) : Option UInt64 :=
  if least ≤ most then some (min most (max least a)) else none

/-- A product, unless it has more than 64 bits. -/
def product? (a b : UInt64) : Option UInt64 :=
  if a.toNat * b.toNat < UInt64.size then some (a * b) else none

/-- The memory for each of `vms` virtual machines. There is no result if one of the steps has none. -/
def perVm? (w : Words) (free vms : UInt64) : Option (Option UInt64) := do
  let vms := max vms 1
  let share ← quotient? (difference free w.reserve) vms
  let ram ← clamp? w.least w.most share
  let total ← product? ram vms
  pure (if total ≤ free then some ram else none)

theorem toNat_max (a b : UInt64) : (max a b).toNat = max a.toNat b.toNat := by
  show (if a ≤ b then b else a).toNat = _
  split
  all_goals
    rename_i h
    rw [UInt64.le_iff_toNat_le] at h
    omega

theorem toNat_min (a b : UInt64) : (min a b).toNat = min a.toNat b.toNat := by
  show (if a ≤ b then a else b).toNat = _
  split
  all_goals
    rename_i h
    rw [UInt64.le_iff_toNat_le] at h
    omega

theorem toNat_difference (a b : UInt64) : (difference a b).toNat = a.toNat - b.toNat := by
  unfold difference
  split
  · rename_i h
    exact UInt64.toNat_sub_of_le a b h
  · rename_i h
    rw [UInt64.le_iff_toNat_le] at h
    rw [UInt64.toNat_zero]
    omega

theorem product?_eq_some_iff {a b c : UInt64} :
    product? a b = some c ↔ c.toNat = a.toNat * b.toNat := by
  unfold product?
  split
  · rename_i hproduct
    rw [Option.some.injEq, ← UInt64.toNat_inj, UInt64.toNat_mul, Nat.mod_eq_of_lt hproduct]
    exact eq_comm
  · rename_i hproduct
    have hlt : c.toNat < UInt64.size := c.toNat_lt_size
    constructor
    · intro h
      cases h
    · intro h
      omega

theorem product?_ne_none_iff {a b : UInt64} : product? a b ≠ none ↔ a.toNat * b.toNat < UInt64.size := by
  unfold product?
  split <;> simp_all

/-- Nothing is divided by zero and no limits cross: only the product may have no result. -/
theorem perVm?_eq {w : Words} (hlimits : w.toPolicy.least ≤ w.toPolicy.most) (free vms : UInt64) :
    ∃ ram : UInt64, ram.toNat = w.toPolicy.limited free.toNat (max vms.toNat 1) ∧
      w.perVm? free vms = (product? ram (max vms 1)).map fun total =>
        if total ≤ free then some ram else none := by
  have hle : w.least ≤ w.most := UInt64.le_iff_toNat_le.2 hlimits
  have hvms : (max vms 1).toNat = max vms.toNat 1 := toNat_max vms 1
  have hne : max vms 1 ≠ 0 := by
    intro hzero
    have htoNat := congrArg UInt64.toNat hzero
    rw [hvms, UInt64.toNat_zero] at htoNat
    omega
  refine ⟨min w.most (max w.least (difference free w.reserve / max vms 1)), ?_, ?_⟩
  · rw [toNat_min, toNat_max, UInt64.toNat_div, toNat_difference, hvms]
    rfl
  · unfold perVm? quotient? clamp?
    simp only [if_neg hne, if_pos hle]
    rw [Option.map_eq_bind]
    rfl

/-- There is a result if the least amount for all virtual machines has no more than 64 bits. -/
theorem perVm?_ne_none_iff {w : Words} (hlimits : w.toPolicy.least ≤ w.toPolicy.most)
    (free vms : UInt64) :
    w.perVm? free vms ≠ none ↔ w.toPolicy.least * max vms.toNat 1 < UInt64.size := by
  obtain ⟨ram, hram, hresult⟩ := perVm?_eq hlimits free vms
  have hvms : (max vms 1).toNat = max vms.toNat 1 := toNat_max vms 1
  have hpos : 0 < max vms.toNat 1 := by omega
  have hfree : free.toNat < UInt64.size := free.toNat_lt_size
  have hleast := le_limited hlimits free.toNat (max vms.toNat 1)
  rw [hresult, ne_eq, Option.map_eq_none_iff, ← ne_eq, product?_ne_none_iff, hram, hvms]
  constructor
  · intro hproduct
    exact Nat.lt_of_le_of_lt (Nat.mul_le_mul_right _ hleast) hproduct
  · intro hproduct
    by_cases hmore : w.toPolicy.least < w.toPolicy.limited free.toNat (max vms.toNat 1)
    · -- A share above the least amount leaves the reserve, so all shares are no more than there is.
      have hreserved := limited_reserved hpos hmore
      omega
    · have heq : w.toPolicy.limited free.toNat (max vms.toNat 1) = w.toPolicy.least := by omega
      rwa [heq]

theorem perVm_of_perVm? {w : Words} (hlimits : w.toPolicy.least ≤ w.toPolicy.most) {free vms : UInt64}
    {share : Option UInt64} (hshare : w.perVm? free vms = some share) :
    w.toPolicy.perVm free.toNat vms.toNat = share.map UInt64.toNat := by
  obtain ⟨ram, hram, hresult⟩ := perVm?_eq hlimits free vms
  obtain ⟨total, htotal, rfl⟩ := Option.map_eq_some_iff.1 (hresult.symm.trans hshare)
  have hvms : (max vms 1).toNat = max vms.toNat 1 := toNat_max vms 1
  rw [product?_eq_some_iff, hvms] at htotal
  rw [perVm_eq, ← hram, ← htotal]
  by_cases hfits : total ≤ free
  · rw [if_pos hfits, if_pos (UInt64.le_iff_toNat_le.1 hfits)]
    rfl
  · rw [if_neg hfits, if_neg (mt UInt64.le_iff_toNat_le.2 hfits)]
    rfl

end Words

/-! ## All of it -/

/-- **Shares of memory.** There is no share exactly if the least amount for all virtual machines is more
than there is. A share is within the limits and fits; it leaves the reserve unless it is the least amount,
and one more megabyte for each would not leave it unless it is the most. More memory and fewer virtual
machines take no share away and make none smaller. In numbers of 64 bits the share is found without an
overflow and without a division by zero exactly if the least amount for all virtual machines is such a
number. -/
theorem perVm_shares (accepted : policy.Accepted) :
    (∀ free vms, policy.perVm free vms = none ↔ free < policy.least * max vms 1) ∧
    (∀ free vms ram, policy.perVm free vms = some ram ↔ policy.Share free (max vms 1) ram) ∧
    (∀ free more fewer vms ram, free ≤ more → fewer ≤ vms → policy.perVm free vms = some ram →
      ∃ larger, policy.perVm more fewer = some larger ∧ ram ≤ larger) ∧
    ∀ w : Words, w.toPolicy = policy → ∀ free vms : UInt64,
      (w.perVm? free vms ≠ none ↔ policy.least * max vms.toNat 1 < UInt64.size) ∧
      ∀ share, w.perVm? free vms = some share →
        policy.perVm free.toNat vms.toNat = share.map UInt64.toNat := by
  have hlimits := accepted_iff.1 accepted
  refine ⟨fun _ _ => perVm_eq_none_iff hlimits, fun _ _ _ => perVm_eq_some_iff hlimits, ?_, ?_⟩
  · intro free more fewer vms ram hmore hfewer hram
    exact exists_perVm_of_le hlimits hmore hfewer hram
  · rintro w rfl free vms
    exact ⟨Words.perVm?_ne_none_iff hlimits free vms, fun _ => Words.perVm_of_perVm? hlimits⟩

/-- Two virtual machines on hosts with less and with more than the reserve, and one on the largest host
there can be. -/
theorem perVm_shares_two :
    let policy : RamPolicy := { reserve := 10000, least := 2000, most := 10000 }
    let w : Words := ⟨10000, 2000, 10000⟩
    policy.Accepted ∧ policy.perVm 3999 2 = none ∧ policy.Share 13000 2 2000 ∧
      policy.Share 18001 2 4000 ∧
      (∃ larger, policy.perVm 40000 1 = some larger ∧ 4000 ≤ larger) ∧
      w.perVm? 0xffffffffffffffff 0x20c49ba5e353f7 ≠ none ∧
      w.perVm? 0xffffffffffffffff 0x20c49ba5e353f8 = none := by
  intro policy w
  have haccepted : policy.Accepted := accepted_iff.2 (by decide)
  obtain ⟨hnone, hsome, hmore, hwords⟩ := perVm_shares haccepted
  refine ⟨haccepted, (hnone 3999 2).2 (by decide), (hsome 13000 2 2000).1 (by decide),
    (hsome 18001 2 4000).1 (by decide),
    hmore 18001 40000 1 2 4000 (by decide) (by decide) (by decide),
    (hwords w rfl _ _).1.2 (by decide), ?_⟩
  exact Decidable.not_not.1 fun hresult => absurd ((hwords w rfl _ _).1.1 hresult) (by decide)

end VirtHost.RamPolicy
