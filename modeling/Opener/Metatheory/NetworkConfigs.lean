import Mathlib.Tactic.IntervalCases
import Opener.Core.TcpIpInterface
import Opener.Library.PrefixMask

/-!
The check of an interface configuration against its table. The addresses are compared in
network byte order where that makes no difference and else in host byte order.
-/

namespace Opener

open PrefixMask

section ByteOrder

theorem getLsbD_ntohl (value : UInt32) {i : Nat} (hi : i < 32) :
    (ntohl value).toBitVec.getLsbD i = value.toBitVec.getLsbD (8 * (3 - i / 8) + i % 8) := by
  have h24 : (24 : UInt32).toBitVec % 32 = 24#32 := rfl
  have h16 : (16 : UInt32).toBitVec % 32 = 16#32 := rfl
  have h8 : (8 : UInt32).toBitVec % 32 = 8#32 := rfl
  simp only [ntohl, htonl, UInt32.toBitVec_or, UInt32.toBitVec_shiftLeft,
    UInt32.toBitVec_shiftRight, UInt8.toBitVec_toUInt32, UInt32.toBitVec_toUInt8, h24, h16, h8,
    BitVec.shiftLeft_eq', BitVec.ushiftRight_eq', BitVec.getLsbD_or, BitVec.getLsbD_shiftLeft,
    BitVec.getLsbD_ushiftRight, BitVec.getLsbD_setWidth, BitVec.toNat_ofNat]
  interval_cases i <;> simp

/-- Two words are equal if they are bit by bit. -/
theorem eq_of_getLsbD {value value' : UInt32}
    (h : ∀ i < 32, value.toBitVec.getLsbD i = value'.toBitVec.getLsbD i) : value = value' :=
  UInt32.toBitVec_inj.mp (BitVec.eq_of_getLsbD_eq h)

/-- Turning the bytes twice gives the word back. -/
theorem ntohl_ntohl (value : UInt32) : ntohl (ntohl value) = value := by
  refine eq_of_getLsbD fun i hi => ?_
  have hindex : 8 * (3 - (8 * (3 - i / 8) + i % 8) / 8) + (8 * (3 - i / 8) + i % 8) % 8 = i := by
    omega
  rw [getLsbD_ntohl _ hi, getLsbD_ntohl _ (by omega), hindex]

theorem ntohl_inj {value value' : UInt32} : ntohl value = ntohl value' ↔ value = value' :=
  (Function.LeftInverse.injective ntohl_ntohl).eq_iff

theorem ntohl_and (value value' : UInt32) :
    ntohl (value &&& value') = ntohl value &&& ntohl value' := by
  refine eq_of_getLsbD fun i hi => ?_
  rw [getLsbD_ntohl _ hi, UInt32.toBitVec_and, UInt32.toBitVec_and, BitVec.getLsbD_and,
    BitVec.getLsbD_and, getLsbD_ntohl _ hi, getLsbD_ntohl _ hi]

theorem ntohl_or (value value' : UInt32) :
    ntohl (value ||| value') = ntohl value ||| ntohl value' := by
  refine eq_of_getLsbD fun i hi => ?_
  rw [getLsbD_ntohl _ hi, UInt32.toBitVec_or, UInt32.toBitVec_or, BitVec.getLsbD_or,
    BitVec.getLsbD_or, getLsbD_ntohl _ hi, getLsbD_ntohl _ hi]

theorem ntohl_not (value : UInt32) : ntohl (~~~value) = ~~~ntohl value := by
  refine eq_of_getLsbD fun i hi => ?_
  have hindex : 8 * (3 - i / 8) + i % 8 < 32 := by omega
  rw [getLsbD_ntohl _ hi, UInt32.toBitVec_not, UInt32.toBitVec_not, BitVec.getLsbD_not,
    BitVec.getLsbD_not, getLsbD_ntohl _ hi, decide_eq_true hi, decide_eq_true hindex]

theorem ntohl_eq_zero {value : UInt32} : ntohl value = 0 ↔ value = 0 :=
  @ntohl_inj value 0

end ByteOrder

section HostByteOrder

/-- An address as the number whose bytes are the parts of its dotted form. -/
def hostOrder (addr : UInt32) : Nat := (ntohl addr).toNat

theorem hostOrder_lt (addr : UInt32) : hostOrder addr < 2 ^ 32 := (ntohl addr).toNat_lt

theorem hostOrder_inj {addr addr' : UInt32} : hostOrder addr = hostOrder addr' ↔ addr = addr' :=
  UInt32.toNat_inj.trans ntohl_inj

theorem hostOrder_eq_zero {addr : UInt32} : hostOrder addr = 0 ↔ ntohl addr = 0 :=
  UInt32.toNat_inj (b := 0)

theorem hostOrder_and (addr addr' : UInt32) :
    hostOrder (addr &&& addr') = hostOrder addr &&& hostOrder addr' := by
  rw [hostOrder, ntohl_and, UInt32.toNat_and, hostOrder, hostOrder]

theorem hostOrder_or (addr addr' : UInt32) :
    hostOrder (addr ||| addr') = hostOrder addr ||| hostOrder addr' := by
  rw [hostOrder, ntohl_or, UInt32.toNat_or, hostOrder, hostOrder]

theorem hostOrder_not (addr : UInt32) : hostOrder (~~~addr) = 2 ^ 32 - 1 - hostOrder addr := by
  rw [hostOrder, ntohl_not, UInt32.toNat_not, hostOrder]
  rfl

/-- The complement of a mask has ones on its host part. -/
theorem hostOrder_not_mask {netMask : UInt32} {hostBits : Nat} (h : hostBits ≤ 32)
    (hmask : hostOrder netMask = prefixMask 32 hostBits) :
    hostOrder (~~~netMask) = hostMask hostBits := by
  have hpow : 2 ^ hostBits ≤ 2 ^ 32 := Nat.pow_le_pow_right (by decide) h
  rw [hostOrder_not, hmask, prefixMask, hostMask]
  omega

end HostByteOrder

section Checks

/-- The trick on the bits of the host part plus one. -/
theorem and_sub_one_eq_zero_iff {v : UInt32} :
    v ≠ 0 ∧ v &&& (v - 1) = 0 ↔ v.toNat.isPowerOfTwo := by
  rw [← Nat.ne_zero_and_sub_one_eq_zero_iff_isPowerOfTwo]
  have hzero : v ≠ 0 ↔ v.toNat ≠ 0 := not_congr (UInt32.toNat_inj (b := 0)).symm
  rw [hzero]
  refine and_congr_right fun hne => ?_
  have hsub : (v - 1).toNat = v.toNat - 1 :=
    UInt32.toNat_sub_of_le _ _ (Nat.one_le_iff_ne_zero.mpr hne)
  rw [← UInt32.toNat_inj, UInt32.toNat_and, hsub]
  rfl

/-- A mask is accepted if its ones are in front of its zeros and it has both. -/
theorem isValidNetmask_iff (netmask : UInt32) :
    isValidNetmask netmask = true ↔
      ∃ hostBits, 1 ≤ hostBits ∧ hostBits ≤ 31 ∧
        hostOrder netmask = prefixMask 32 hostBits := by
  have hlt := hostOrder_lt netmask
  have hbroadcast : InAddr.broadcast ≠ netmask ↔ hostOrder netmask ≠ 2 ^ 32 - 1 :=
    (not_congr (hostOrder_inj.trans eq_comm)).symm
  have hv : (~~~(ntohl netmask) + 1).toNat = (2 ^ 32 - hostOrder netmask) % 2 ^ 32 := by
    have hnot : (~~~(ntohl netmask)).toNat = 2 ^ 32 - 1 - hostOrder netmask :=
      UInt32.toNat_not _
    have hone : (1 : UInt32).toNat = 1 := rfl
    rw [UInt32.toNat_add, hnot, hone]
    omega
  have hvalid : isValidNetmask netmask = true ↔
      ((2 ^ 32 - hostOrder netmask) % 2 ^ 32).isPowerOfTwo ∧
        hostOrder netmask ≠ 2 ^ 32 - 1 := by
    rw [← hv, ← and_sub_one_eq_zero_iff, ← hbroadcast]
    simp only [isValidNetmask, Bool.and_eq_true, decide_eq_true_eq]
  rw [hvalid]
  rcases Nat.eq_zero_or_pos (hostOrder netmask) with hzero | hpos
  · -- the complement of zero plus one wraps to zero
    rw [hzero]
    refine iff_of_false (fun h => Nat.not_isPowerOfTwo_zero h.1) ?_
    rintro ⟨hostBits, -, hle, hmask⟩
    have hpow : 2 ^ hostBits < 2 ^ 32 := Nat.pow_lt_pow_right (by decide) (by omega)
    rw [prefixMask] at hmask
    omega
  · rw [Nat.mod_eq_of_lt (by omega), isPowerOfTwo_sub_iff hlt.le]
    constructor
    · rintro ⟨⟨hostBits, hle, hmask⟩, hne⟩
      refine ⟨hostBits, Nat.one_le_iff_ne_zero.mpr ?_, ?_, hmask⟩
      · rintro rfl
        exact hne hmask
      · refine Nat.le_of_lt_succ (lt_of_le_of_ne hle ?_)
        rintro rfl
        exact hpos.ne' hmask
    · rintro ⟨hostBits, hpos, hle, hmask⟩
      refine ⟨⟨hostBits, by omega, hmask⟩, ?_⟩
      have hpow : 2 ^ 1 ≤ 2 ^ hostBits := Nat.pow_le_pow_right (by decide) hpos
      have hpow' : 2 ^ hostBits ≤ 2 ^ 32 := Nat.pow_le_pow_right (by decide) (by omega)
      rw [hmask, prefixMask]
      omega

/-- A test of the top bits compares the address with a block of addresses. -/
theorem and_prefix_eq_iff {addr mask block : UInt32} (hostBits : Nat) (h : hostBits ≤ 32)
    (hmask : mask.toNat = prefixMask 32 hostBits)
    (hblock : block.toNat % 2 ^ hostBits = 0) :
    ntohl addr &&& mask = block ↔ hostOrder addr / 2 ^ hostBits = block.toNat / 2 ^ hostBits := by
  have hself := (and_prefixMask_eq_self_iff h block.toNat_lt).mpr hblock
  rw [← UInt32.toNat_inj, UInt32.toNat_and, hmask,
    ← and_prefixMask_eq_iff h (hostOrder_lt addr) block.toNat_lt, hself]
  rfl

theorem isInClassAbc_iff (ipAddr : UInt32) :
    isInClassAbc ipAddr = true ↔ hostOrder ipAddr < 224 * 2 ^ 24 := by
  have hlt := hostOrder_lt ipAddr
  simp only [isInClassAbc, Bool.or_eq_true, decide_eq_true_eq]
  rw [and_prefix_eq_iff 31 (by decide) (by decide) (by decide),
    and_prefix_eq_iff 30 (by decide) (by decide) (by decide),
    and_prefix_eq_iff 29 (by decide) (by decide) (by decide)]
  have h0 : (0 : UInt32).toNat = 0 := rfl
  have h8 : (0x80000000 : UInt32).toNat = 0x80000000 := rfl
  have hC : (0xC0000000 : UInt32).toNat = 0xC0000000 := rfl
  rw [h0, h8, hC]
  omega

theorem isOnLoopbackNetwork_iff (ipAddr : UInt32) :
    isOnLoopbackNetwork ipAddr = true ↔ hostOrder ipAddr / 2 ^ 24 = 127 := by
  rw [isOnLoopbackNetwork, decide_eq_true_eq,
    and_prefix_eq_iff 24 (by decide) (by decide) (by decide)]
  rfl

/-- Neither the first nor the last address of its network. -/
def IsHostIp (hostBits : Nat) (addr : UInt32) : Prop :=
  hostOrder addr % 2 ^ hostBits ≠ 0 ∧ hostOrder addr % 2 ^ hostBits ≠ 2 ^ hostBits - 1

theorem isNetworkOrBroadcastIp_iff {ipAddr netMask : UInt32} {hostBits : Nat} (h : hostBits ≤ 32)
    (hmask : hostOrder netMask = prefixMask 32 hostBits) :
    isNetworkOrBroadcastIp ipAddr netMask = true ↔ ¬ IsHostIp hostBits ipAddr := by
  have hnetwork : ipAddr &&& netMask = ipAddr ↔ hostOrder ipAddr % 2 ^ hostBits = 0 := by
    rw [← hostOrder_inj, hostOrder_and, hmask,
      and_prefixMask_eq_self_iff h (hostOrder_lt ipAddr)]
  have hbroadcast : ipAddr ||| ~~~netMask = ipAddr ↔
      hostOrder ipAddr % 2 ^ hostBits = 2 ^ hostBits - 1 := by
    rw [← hostOrder_inj, hostOrder_or, hostOrder_not_mask h hmask, or_hostMask_eq_self_iff]
  rw [isNetworkOrBroadcastIp, Bool.or_eq_true, decide_eq_true_eq, decide_eq_true_eq,
    hnetwork, hbroadcast, IsHostIp]
  tauto

theorem and_mask_eq_iff {addr addr' netMask : UInt32} {hostBits : Nat} (h : hostBits ≤ 32)
    (hmask : hostOrder netMask = prefixMask 32 hostBits) :
    netMask &&& addr = netMask &&& addr' ↔
      hostOrder addr / 2 ^ hostBits = hostOrder addr' / 2 ^ hostBits := by
  rw [UInt32.and_comm netMask addr, UInt32.and_comm netMask addr', ← hostOrder_inj,
    hostOrder_and, hostOrder_and, hmask,
    and_prefixMask_eq_iff h (hostOrder_lt addr) (hostOrder_lt addr')]

/-- What the table of the checks asks of a configuration whose mask leaves so many bits to
the host part. A mask of zero leaves all of them. -/
structure FollowsTable (ifCfg : CipTcpIpInterfaceConfiguration) (hostBits : Nat) : Prop where
  nonzero : ifCfg.ipAddress ≠ 0
  hostBits_pos : 1 ≤ hostBits
  hostBits_le : hostBits ≤ 32
  mask : hostOrder ifCfg.networkMask = prefixMask 32 hostBits
  classes : ∀ addr ∈ [ifCfg.ipAddress, ifCfg.gateway, ifCfg.nameServer, ifCfg.nameServer2],
    hostOrder addr < 224 * 2 ^ 24
  notLocal : ∀ addr ∈ [ifCfg.ipAddress, ifCfg.gateway], hostOrder addr / 2 ^ 24 ≠ 127
  host : IsHostIp hostBits ifCfg.ipAddress
  gateway : ifCfg.gateway = 0 ∨
    IsHostIp hostBits ifCfg.gateway ∧
      (ifCfg.networkMask ≠ 0 →
        hostOrder ifCfg.ipAddress / 2 ^ hostBits = hostOrder ifCfg.gateway / 2 ^ hostBits)

/-- The masks that pass the check of the mask. -/
theorem networkMask_iff (networkMask : UInt32) :
    (networkMask = 0 ∨ isValidNetmask networkMask = true) ↔
      ∃ hostBits, 1 ≤ hostBits ∧ hostBits ≤ 32 ∧
        hostOrder networkMask = prefixMask 32 hostBits := by
  have hzero : networkMask = 0 ↔ hostOrder networkMask = 0 := by
    rw [hostOrder_eq_zero, ntohl_eq_zero]
  rw [isValidNetmask_iff, hzero]
  constructor
  · rintro (hmask | ⟨hostBits, hpos, hle, hmask⟩)
    · exact ⟨32, by decide, le_refl 32, hmask⟩
    · exact ⟨hostBits, hpos, by omega, hmask⟩
  · rintro ⟨hostBits, hpos, hle, hmask⟩
    rcases Nat.lt_or_eq_of_le hle with hlt | rfl
    · exact .inr ⟨hostBits, hpos, by omega, hmask⟩
    · exact .inl hmask

/-- The branches of the check as one condition. -/
theorem isValidNetworkConfig_eq_true (ifCfg : CipTcpIpInterfaceConfiguration) :
    isValidNetworkConfig ifCfg = true ↔
      ifCfg.ipAddress ≠ 0 ∧
      (ifCfg.networkMask = 0 ∨ isValidNetmask ifCfg.networkMask = true) ∧
      (∀ addr ∈ [ifCfg.ipAddress, ifCfg.gateway, ifCfg.nameServer, ifCfg.nameServer2],
        isInClassAbc addr = true) ∧
      (∀ addr ∈ [ifCfg.ipAddress, ifCfg.gateway], ¬ isOnLoopbackNetwork addr = true) ∧
      ¬ isNetworkOrBroadcastIp ifCfg.ipAddress ifCfg.networkMask = true ∧
      (ifCfg.gateway = 0 ∨
        ¬ isNetworkOrBroadcastIp ifCfg.gateway ifCfg.networkMask = true ∧
          (ifCfg.networkMask ≠ 0 →
            ifCfg.networkMask &&& ifCfg.ipAddress =
              ifCfg.networkMask &&& ifCfg.gateway)) := by
  have hany (addr : UInt32) : InAddr.any = ntohl addr ↔ addr = 0 :=
    eq_comm.trans ntohl_eq_zero
  have hrefuse (refused : Prop) [Decidable refused] (rest : Bool) :
      (if refused then false else rest) = true ↔ ¬ refused ∧ rest = true := by
    split <;> simp [*]
  unfold isValidNetworkConfig
  rw [hrefuse, hrefuse, hrefuse, hrefuse, hrefuse]
  simp only [hany, List.forall_mem_cons]
  refine and_congr Iff.rfl (and_congr ?_ (and_congr ?_ (and_congr ?_ ?_)))
  · simp [hany, imp_iff_not_or]
  · simp [and_assoc]
  · simp
  · -- a gateway of zero passes both branches that remain
    by_cases hgateway : ifCfg.gateway = 0
    · simp [hany, hgateway]
    · by_cases hmask : ifCfg.networkMask = 0
      · simp [hany, hgateway, hmask]
      · simp [hany, hgateway, hmask, and_assoc]

theorem isValidNetworkConfig_iff (ifCfg : CipTcpIpInterfaceConfiguration) :
    isValidNetworkConfig ifCfg = true ↔ ∃ hostBits, FollowsTable ifCfg hostBits := by
  rw [isValidNetworkConfig_eq_true, networkMask_iff]
  simp only [isInClassAbc_iff, isOnLoopbackNetwork_iff]
  constructor
  · rintro ⟨hne, ⟨hostBits, hpos, hle, hmask⟩, hclasses, hlocal, hhost, hgateway⟩
    rw [isNetworkOrBroadcastIp_iff hle hmask, not_not] at hhost
    rw [isNetworkOrBroadcastIp_iff hle hmask, not_not, and_mask_eq_iff hle hmask] at hgateway
    exact ⟨hostBits, hne, hpos, hle, hmask, hclasses, hlocal, hhost, hgateway⟩
  · rintro ⟨hostBits, hne, hpos, hle, hmask, hclasses, hlocal, hhost, hgateway⟩
    rw [isNetworkOrBroadcastIp_iff hle hmask, not_not, isNetworkOrBroadcastIp_iff hle hmask,
      not_not, and_mask_eq_iff hle hmask]
    exact ⟨hne, ⟨hostBits, hpos, hle, hmask⟩, hclasses, hlocal, hhost, hgateway⟩

end Checks

end Opener
