import Opener.Metatheory.ObjectData

/-!
The values that the objects hold at any time. What a request sets has passed the checks of its
decode function; everything else is as the last start left it. A change of the interface
configuration or of the host name is pending until the next start.
-/

namespace Opener

open CipTcpIpObject

/-- The interface configuration after a start on the platform. -/
def Platform.ifCfg (platform : Platform) (objects : ObjectConfig) :
    CipTcpIpInterfaceConfiguration :=
  platform.interfaceConfiguration.getD objects.initialTcpip.interfaceConfiguration

/-- The interface control is negotiated, or the one forced speed that a port supports. -/
def CipEthernetLinkInterfaceControl.IsSupported (control : CipEthernetLinkInterfaceControl) :
    Prop :=
  control = ⟨CipEthernetLink.ifCntrlAutonegotiate, 0⟩ ∨
    control = ⟨CipEthernetLink.ifCntrlForceDuplexFD, 100⟩

/-- The settable values of the TCP/IP interface object since a start. -/
structure CipTcpIpObject.Valid (objects : ObjectConfig) (platform : Platform)
    (tcpip : CipTcpIpObject) : Prop where
  configControl : tcpip.configControl ≤ 2
  interfaceConfiguration : tcpip.interfaceConfiguration = platform.ifCfg objects ∨
    isValidInterfaceConfiguration tcpip.interfaceConfiguration objects.beyond = true ∧
      tcpip.interfaceConfiguration.domainName.length ≤ 48
  hostname : tcpip.hostname = platform.hostName ∨
    isValidNameLabel (cString (tcpip.hostname.string ++ objects.beyond)) = true ∧
      tcpip.hostname.length ≤ 64
  pending : tcpip.status = 0x01 ∧ tcpip.interfaceConfiguration = platform.ifCfg objects ∧
      tcpip.hostname = platform.hostName ∨
    tcpip.status = 0x01 ||| statusIfaceCfgPend
  encapsulationInactivityTimeout : tcpip.encapsulationInactivityTimeout ≤ 3600

/-- What is never set stays as the start left it. -/
structure ObjectData.Valid (objects : ObjectConfig) (platform : Platform) (data : ObjectData) :
    Prop where
  tcpip : data.tcpip.toCipTcpIpObject.Valid objects platform
  unset : data.tcpip = { objects.initialTcpip with
    toCipTcpIpObject := data.tcpip.toCipTcpIpObject
    mcastConfig := { objects.initialTcpip.mcastConfig with
      startingMulticastAddress := calculateMulticastIp (platform.ifCfg objects) } }
  ports : data.interfaceControl.length = objects.ethernetLinkInstances
  interfaceControl : ∀ control ∈ data.interfaceControl, control.IsSupported
  ethernetLink : data.ethernetLink =
    (List.range objects.ethernetLinkInstances).map (objects.initialPort platform.macAddress)

section Settings

variable {objects : ObjectConfig} {platform : Platform} {tcpip tcpip' : CipTcpIpObject}

theorem CipTcpIpObject.Valid.status (h : tcpip.Valid objects platform) :
    tcpip.status ||| statusIfaceCfgPend = 0x01 ||| statusIfaceCfgPend := by
  rcases h.pending with ⟨hstatus, -, -⟩ | hstatus
  · rw [hstatus]
  · rw [hstatus]
    decide

theorem and_eq_self_of_and_not {value mask : UInt32} (h : value &&& ~~~mask = 0) :
    value &&& mask = value := by
  have hsplit : value &&& mask ||| value &&& ~~~mask = value := by
    rw [← UInt32.toBitVec_inj]
    simp only [UInt32.toBitVec_or, UInt32.toBitVec_and, UInt32.toBitVec_not]
    ext i hi
    simp only [BitVec.getElem_or, BitVec.getElem_and, BitVec.getElem_not]
    cases value.toBitVec[i] <;> cases mask.toBitVec[i] <;> rfl
  rwa [h, UInt32.or_zero] at hsplit

theorem configControl_le {received : UInt32} (hmethod : ¬received &&& cfgCtrlMethodMask ≥ 0x03)
    (hother : ¬received &&& ~~~cfgCtrlMethodMask ≠ 0) :
    received ≤ 2 := by
  rw [and_eq_self_of_and_not (not_not.mp hother), ge_iff_le, UInt32.le_iff_toNat_le] at hmethod
  rw [UInt32.le_iff_toNat_le]
  have hthree : (3 : UInt32).toNat = 3 := rfl
  have htwo : (2 : UInt32).toNat = 2 := rfl
  omega

theorem TcpIpSet.valid (hset : TcpIpSet objects tcpip tcpip')
    (h : tcpip.Valid objects platform) : tcpip'.Valid objects platform := by
  cases hset with
  | configControl request =>
      simp only [decodeTcpIpInterfaceConfigurationControl]
      split
      · exact h
      · rename_i hvalid
        rw [not_or] at hvalid
        exact { h with
          configControl := UInt32.le_trans UInt32.and_le_left
            (configControl_le hvalid.1 hvalid.2) }
  | interfaceConfiguration st request =>
      simp only [decodeCipTcpIpInterfaceConfiguration]
      split
      · exact h
      · split
        · exact h
        · split
          · exact h
          · rename_i hlength
            split
            · exact h
            · rename_i hvalid
              rw [Bool.not_eq_true', Bool.not_eq_false] at hvalid
              exact { h with
                interfaceConfiguration := .inr ⟨hvalid, UInt16.not_lt.mp hlength⟩
                pending := .inr h.status }
  | @hostName request decoded hdecoded =>
      simp only [decodeHostName] at hdecoded
      split at hdecoded
      · cases hdecoded
        exact h
      · rename_i hlength
        split at hdecoded
        · cases hdecoded
        · split at hdecoded
          · cases hdecoded
            exact h
          · rename_i hvalid
            rw [Bool.not_eq_true', Bool.not_eq_false] at hvalid
            cases hdecoded
            exact { h with
              hostname := .inr ⟨hvalid, UInt16.not_lt.mp hlength⟩
              pending := .inr h.status }
  | inactivityTimeout request =>
      simp only [decodeCipTcpIpInterfaceEncapsulationInactivityTimeout]
      split
      · exact h
      · rename_i htimeout
        exact { h with encapsulationInactivityTimeout := UInt16.not_lt.mp htimeout }

theorem isIfaceControlAllowed_iff (control : CipEthernetLinkInterfaceControl) :
    isIfaceControlAllowed CipEthernetLink.speedDpx100FD control = true ↔
      control.controlBits &&& CipEthernetLink.ifCntrlForceDuplexFD ≠ 0 ∧
        control.forcedInterfaceSpeed = 100 := by
  -- only the entry with the index 3 is selected
  have hselected : ∀ i < 6,
      (CipEthernetLink.speedDpx100FD &&& (1 <<< UInt16.ofNat i) != 0) = (i == 3) := by decide
  rw [isIfaceControlAllowed, List.any_eq_true]
  constructor
  · rintro ⟨⟨⟨speed, duplex⟩, i⟩, hmem, hentry⟩
    rw [Bool.and_eq_true, Bool.and_eq_true, beq_iff_eq, beq_iff_eq,
      hselected i (List.snd_lt_of_mem_zipIdx hmem), beq_iff_eq] at hentry
    obtain ⟨⟨rfl, hduplex⟩, hspeed⟩ := hentry
    have hfound : (speed, duplex) = (100, 1) := by
      have hget := List.mk_mem_zipIdx_iff_getElem?.mp hmem
      exact (Option.some.inj hget).symm
    cases hfound
    refine ⟨fun hzero => ?_, hspeed⟩
    rw [if_neg (not_not.mpr hzero)] at hduplex
    cases hduplex
  · rintro ⟨hduplex, hspeed⟩
    refine ⟨((100, 1), 3), by decide, ?_⟩
    rw [if_pos hduplex, hspeed]
    decide

theorem decodeInterfaceControl_supported (idx : Nat) (request : MessageRouterRequest)
    {ports : List CipEthernetLinkInterfaceControl} (h : ∀ control ∈ ports, control.IsSupported) :
    (decodeCipEthernetLinkInterfaceControl idx ports request).data.length = ports.length ∧
      ∀ control ∈ (decodeCipEthernetLinkInterfaceControl idx ports request).data,
        control.IsSupported := by
  simp only [decodeCipEthernetLinkInterfaceControl]
  generalize request.data.getUint.1 = controlBits
  generalize (Message.getUint request.data.getUint.2).1 = forcedInterfaceSpeed
  split
  · exact ⟨rfl, h⟩
  · rename_i hmax
    split
    · exact ⟨rfl, h⟩
    · rename_i hconflict
      split
      · exact ⟨rfl, h⟩
      · rename_i hallowed
        refine ⟨List.length_set, fun control hcontrol => ?_⟩
        rcases List.mem_or_eq_of_mem_set hcontrol with hold | rfl
        · exact h control hold
        · have hbits : controlBits = 0 ∨ controlBits = 1 ∨ controlBits = 2 ∨ controlBits = 3 := by
            rw [gt_iff_lt, UInt16.not_lt, UInt16.le_iff_toNat_le] at hmax
            simp only [← UInt16.toNat_inj]
            have hthree : CipEthernetLink.ifCntrlMaxValid.toNat = 3 := rfl
            have htwo : (2 : UInt16).toNat = 2 := rfl
            have hone : (1 : UInt16).toNat = 1 := rfl
            have hzero : (0 : UInt16).toNat = 0 := rfl
            have hvalue : (3 : UInt16).toNat = 3 := rfl
            omega
          simp only [isIfaceControlAllowed_iff, CipEthernetLink.ifCntrlAutonegotiate,
            CipEthernetLink.ifCntrlForceDuplexFD] at hconflict hallowed
          rcases hbits with rfl | rfl | rfl | rfl
          · simp at hallowed
          · simp +decide at hconflict
            exact .inl (by rw [hconflict]; rfl)
          · simp +decide at hallowed
            exact .inr (by rw [hallowed]; rfl)
          · simp +decide at hconflict

end Settings

section Runs

variable {objects : ObjectConfig} {device : DeviceData} {platform : Platform}
  {data data' : ObjectData}

theorem ObjectStep.valid (hstep : ObjectStep objects data data')
    (h : data.Valid objects platform) : data'.Valid objects platform := by
  cases hstep with
  | tcpip hset =>
      refine { h with tcpip := hset.valid h.tcpip, unset := ?_ }
      rw [h.unset]
  | failed fault => exact { h with }
  | interfaceControl idx request =>
      obtain ⟨hlength, hsupported⟩ :=
        decodeInterfaceControl_supported idx request h.interfaceControl
      exact { h with ports := hlength.trans h.ports, interfaceControl := hsupported }
  | dscp attr request => exact { h with }
  | assembly received => exact { h with }
  | reset => exact { h with }
  | resetToInitialConfiguration =>
      have htimeout : (120 : UInt16) ≤ 3600 := by decide
      refine { h with
        tcpip := { h.tcpip with encapsulationInactivityTimeout := htimeout }
        unset := ?_ }
      simp only [ObjectData.activate, ObjectData.defaults]
      rw [h.unset]

theorem ObjectRun.valid (hrun : ObjectRun objects data data') (h : data.Valid objects platform) :
    data'.Valid objects platform := by
  induction hrun with
  | refl => exact h
  | tail _ hstep ih => exact hstep.valid ih

theorem startObjects_valid (confFile : ConfFile) (accesses : Nat) :
    (objects.startObjects device platform confFile accesses).Valid objects platform :=
  { tcpip :=
      { configControl := UInt32.le_refl _
        interfaceConfiguration := .inl rfl
        hostname := .inl rfl
        pending := .inl ⟨rfl, rfl, rfl⟩
        encapsulationInactivityTimeout := show (120 : UInt16) ≤ 3600 by decide }
    unset := rfl
    ports := List.length_replicate
    interfaceControl := fun control hcontrol => .inl (List.eq_of_mem_replicate hcontrol)
    ethernetLink := rfl }

/-- The platform that a device finds when it is started. -/
def PowerAction.found (platform : Platform) : PowerAction → Platform
  | .powerCycle platform => platform
  | .stack _ _ _ | .identity _ => platform

/-- The one that the last start found. -/
def lastPlatform (platform : Platform) (actions : List PowerAction) : Platform :=
  actions.foldl PowerAction.found platform

theorem PowerStep.valid {action : PowerAction} (hstep : PowerStep objects device data action data')
    (h : data.Valid objects platform) : data'.Valid objects (action.found platform) := by
  cases hstep with
  | stack hrun => exact ObjectRun.valid hrun h
  | identity call => exact { h with }
  | powerCycle found => exact startObjects_valid _ _

/-- In every run, with any messages, resets and power cycles, the objects hold valid values. -/
theorem objectData_valid {first d : Device ObjectData} {confFile : ConfFile} {accesses : Nat}
    {actions : List PowerAction}
    (hstart : objects.start device platform confFile accesses = .ok first)
    (hrun : Runs.runLabels (objects.powerStep device) actions first = .ok d) :
    d.globals.application.Valid objects (lastPlatform platform actions) := by
  obtain ⟨hclasses, hdata⟩ := ObjectConfig.start_spec hstart
  have hvalid : first.globals.application.Valid objects platform :=
    hdata ▸ startObjects_valid confFile accesses
  clear hstart hdata
  induction actions generalizing first platform with
  | nil =>
      cases hrun
      exact hvalid
  | cons action actions ih =>
      rw [Runs.runLabels] at hrun
      split at hrun
      · cases hrun
      · rename_i next hstep
        obtain ⟨hclasses', hpower⟩ := ObjectConfig.powerStep_spec hclasses hstep
        exact ih hrun hclasses' (hpower.valid hvalid)

end Runs

section Sample

namespace SampleApplication

/-- A device with three ports on which everything can be set. -/
def objects : ObjectConfig :=
  { stack := config
    environment := environment 0 5
    files := fun _ => {}
    ifaceCfgSettable := true
    interfaceControl := true
    interfaceLabelEnabled := true
    ethernetLinkInstances := 3
    assemblyInstances := [154, 153, 152, 151, 150, 100] }

def deviceData : DeviceData :=
  { vendorId := 1
    deviceType := 12
    productCode := 65001
    revision := ⟨2, 3⟩
    deviceName := [79, 112, 69, 78, 101, 114, 32, 80, 67] }

/-- The host "opener" with the address 192.168.0.10. -/
def platform : Platform :=
  { macAddress := #v[0x02, 0x00, 0x00, 0x00, 0x00, 0x01]
    hostName := .setByData 6 [111, 112, 101, 110, 101, 114]
    interfaceConfiguration := some
      { ipAddress := 0x0A00A8C0
        networkMask := 0x00FFFFFF
        gateway := 0x0100A8C0
        nameServer := 0x0100A8C0
        nameServer2 := 0
        domainName := .setByData 0 [] }
    assemblyData }

/-- A Set_Attribute_Single request for an attribute of the first instance. -/
def setRequest (classId attributeNumber : UInt8) (value : List UInt8) : Message :=
  [0x10, 3, 0x20, classId, 0x24, 1, 0x30, attributeNumber] ++ value

def onPower (label : Environment × StackState.Action) : PowerAction := .stack label.1 [] label.2

/-- The device that was started with the file, in which these actions end, passes a check. -/
def powerEnds (confFile : ConfFile) (actions : List PowerAction)
    (check : Device ObjectData → Bool) : Bool :=
  match objects.start deviceData platform confFile 0 with
  | .error _ => false
  | .ok first =>
      match Runs.runLabels (objects.powerStep deviceData) actions first with
      | .error _ => false
      | .ok d => check d

theorem run_of_powerEnds (confFile : ConfFile) (actions : List PowerAction)
    (check : Device ObjectData → Bool) (h : powerEnds confFile actions check = true) :
    ∃ first d, objects.start deviceData platform confFile 0 = .ok first ∧
      Runs.runLabels (objects.powerStep deviceData) actions first = .ok d ∧ check d = true := by
  rw [powerEnds] at h
  split at h
  · cases h
  · rename_i first hstart
    split at h
    · cases h
    · rename_i d hrun
      exact ⟨first, d, hstart, hrun, h⟩

/-- Static addresses are chosen, and then an address on the network 10.0.0.0. -/
def setAddresses : List PowerAction :=
  [onPower register, onPower (send 1 (setRequest 0xF5 3 [0, 0, 0, 0])),
    onPower (send 1 (setRequest 0xF5 5 ([7, 0, 0, 10, 0, 0, 0, 255] ++ List.replicate 14 0)))]

end SampleApplication

open SampleApplication in
theorem objectData_valid_addresses :
    ∃ d : Device ObjectData, d.globals.application.tcpip.interfaceConfiguration.ipAddress =
        0x0700000A ∧ d.globals.application.tcpip.status = 0x21 ∧
      d.globals.application.Valid objects platform := by
  obtain ⟨first, d, hstart, hrun, hcheck⟩ := run_of_powerEnds none setAddresses
    (fun d => d.globals.application.tcpip.interfaceConfiguration.ipAddress = 0x0700000A &&
      d.globals.application.tcpip.status = 0x21) (by decide +kernel)
  rw [Bool.and_eq_true, decide_eq_true_eq, decide_eq_true_eq] at hcheck
  exact ⟨d, hcheck.1, hcheck.2, objectData_valid hstart hrun⟩

end Sample

end Opener
