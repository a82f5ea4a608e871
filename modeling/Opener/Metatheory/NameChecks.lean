import Opener.Core.SampleApplication
import Opener.Metatheory.DomainNames

/-!
Requests that set a name. The stored name has a length and no zero behind it, so that the
check of a name runs on behind its bytes unless one of them stops it.
-/

namespace Opener

/-- The attributes with a name that is checked. -/
inductive NameAttribute where
  | interfaceConfiguration
  | hostName
deriving DecidableEq, Repr

namespace NameAttribute

open InMemory CipTcpIpObject

/-- The bytes of the name, as many as the request announces. -/
def name : NameAttribute → Message → List UInt8
  | .interfaceConfiguration, data => (receivedInterfaceConfiguration data).domainName.string
  | .hostName, data => (CipString.setByData data.getUint.1 data.getUint.2).string

def decode (attr : NameAttribute) (cfg : Config) (st : StackState) (tcpip : CipTcpIpObject)
    (request : MessageRouterRequest) : Except Fault (Decoded CipTcpIpObject) :=
  match attr with
  | .interfaceConfiguration => decodeInterfaceConfiguration cfg st tcpip request
  | .hostName => InMemory.decodeHostName tcpip request

/-- The checks in front of that of the name let the request pass. -/
def reachesName (attr : NameAttribute) (cfg : Config) (st : StackState) (tcpip : CipTcpIpObject)
    (data : Message) : Prop :=
  match attr with
  | .interfaceConfiguration =>
      st.isIOConnectionActive cfg = false ∧
        cfgCtrlStaticIp = tcpip.configControl &&& cfgCtrlMethodMask ∧
        domainNameLength data ≤ 48 ∧
        isValidNetworkConfig (receivedInterfaceConfiguration data) = true
  | .hostName => data.getUint.1 ≤ 64

/-- A configuration may have no domain name. -/
def ValidName : NameAttribute → List UInt8 → Prop
  | .interfaceConfiguration, name => name = [] ∨ IsDomain name
  | .hostName, name => IsLabel name

/-- There is nothing to check, or a byte of the name ends the check. -/
def StopsInside : NameAttribute → List UInt8 → Prop
  | .interfaceConfiguration, name => name = [] ∨ 0 ∈ name ∨ HasEmptyLabel name
  | .hostName, name => ¬ IsLabelFront name

/-- The request is decided by the bytes of the name: no other byte is read, a name without a
zero is accepted if it is valid, and what is refused changes nothing. -/
def LooksOnlyAtName (attr : NameAttribute) (cfg : Config) (st : StackState)
    (tcpip : CipTcpIpObject) (request : MessageRouterRequest) : Prop :=
  ∃ decoded, attr.decode cfg st tcpip request = .ok decoded ∧
    (0 ∉ attr.name request.data → attr.reachesName cfg st tcpip request.data →
      (decoded.generalStatus = GeneralStatus.success ↔ attr.ValidName (attr.name request.data))) ∧
    (decoded.generalStatus ≠ GeneralStatus.success → decoded.data = tcpip)

/-- The check of the name alone. -/
def validate : NameAttribute → List UInt8 → Except Fault Bool
  | .interfaceConfiguration, name =>
      if name ≠ [] then (InMemory.isValidDomain name).map Prod.fst else .ok true
  | .hostName, name => if name = [] then .error .nullDereference else InMemory.isValidNameLabel name

/-- What the request leaves when its name is accepted. -/
def stored (attr : NameAttribute) (tcpip : CipTcpIpObject) (data : Message) :
    Decoded CipTcpIpObject :=
  match attr with
  | .interfaceConfiguration => storedInterfaceConfiguration tcpip data
  | .hostName => storedHostName tcpip (CipString.setByData data.getUint.1 data.getUint.2)

/-- What it leaves when its name is refused. -/
def refused (attr : NameAttribute) (tcpip : CipTcpIpObject) : Decoded CipTcpIpObject :=
  match attr with
  | .interfaceConfiguration => refusedTcpIp tcpip 22 GeneralStatus.invalidAttributeValue
  | .hostName => refusedTcpIp tcpip 2 GeneralStatus.invalidAttributeValue

end NameAttribute

section Validation

open NameAttribute

variable {name : List UInt8}

theorem IsLabelFront.zero_not_mem (h : IsLabelFront name) : 0 ∉ name := by
  cases name with
  | nil => exact List.not_mem_nil
  | cons first name =>
      rw [List.mem_cons, not_or]
      constructor
      · rintro rfl
        exact absurd (h.1 0 rfl) (by decide)
      · exact fun hzero => absurd (h.2 0 hzero) (by decide)

/-- Names of letters and digits, with hyphens behind the first, are read past their end. -/
theorem isValidNameLabel_isOk_iff :
    (∃ status, InMemory.isValidNameLabel name = .ok status) ↔ ¬ IsLabelFront name := by
  by_cases hzero : 0 ∈ name
  · obtain ⟨label, beyond, rfl, hlabel⟩ := List.eq_append_cons_of_mem hzero
    exact iff_of_true ⟨_, InMemory.isValidNameLabel_terminated hlabel⟩
      fun hfront => hfront.zero_not_mem hzero
  · rw [InMemory.isValidNameLabel_unterminated hzero]
    split
    · next hfront =>
        refine iff_of_false ?_ (not_not.mpr hfront)
        rintro ⟨status, h⟩
        cases h
    · next hfront => exact iff_of_true ⟨false, rfl⟩ hfront

theorem isValidDomain_isOk_iff :
    (∃ checked, InMemory.isValidDomain name = .ok checked) ↔ 0 ∈ name ∨ HasEmptyLabel name := by
  by_cases hzero : 0 ∈ name
  · obtain ⟨domain, beyond, rfl, hdomain⟩ := List.eq_append_cons_of_mem hzero
    exact iff_of_true ⟨_, InMemory.isValidDomain_terminated hdomain⟩ (.inl hzero)
  · rw [InMemory.isValidDomain_unterminated hzero]
    split
    · next hempty => exact iff_of_true ⟨_, rfl⟩ (.inr hempty)
    · next hempty =>
        refine iff_of_false ?_ (not_or.mpr ⟨hzero, hempty⟩)
        rintro ⟨checked, h⟩
        cases h

theorem CipString.length_eq_zero_iff (string : CipString) :
    string.length = 0 ↔ string.string = [] := by
  rw [← List.length_eq_zero_iff, string.sized, ← UInt16.toNat_inj]
  rfl

theorem isValidDomainName_eq (domainName : CipString) :
    InMemory.isValidDomainName domainName =
      interfaceConfiguration.validate domainName.string := by
  have hlength : domainName.length > 0 ↔ domainName.string ≠ [] :=
    UInt16.pos_iff_ne_zero.trans (not_congr domainName.length_eq_zero_iff)
  rw [InMemory.isValidDomainName, validate, if_congr hlength rfl rfl]

theorem validate_isOk_iff (attr : NameAttribute) :
    (∃ status, attr.validate name = .ok status) ↔ attr.StopsInside name := by
  cases attr with
  | interfaceConfiguration =>
      rw [validate, StopsInside, ← isValidDomain_isOk_iff]
      by_cases hname : name = []
      · rw [if_neg (not_not.mpr hname)]
        exact iff_of_true ⟨true, rfl⟩ (.inl hname)
      · rw [if_pos hname, or_iff_right hname]
        cases InMemory.isValidDomain name with
        | error fault => exact iff_of_false (fun ⟨_, h⟩ => nomatch h) (fun ⟨_, h⟩ => nomatch h)
        | ok checked => exact iff_of_true ⟨checked.1, rfl⟩ ⟨checked, rfl⟩
  | hostName =>
      rw [validate, StopsInside]
      by_cases hname : name = []
      · subst hname
        exact iff_of_false (fun ⟨_, h⟩ => nomatch h) (not_not.mpr (by decide))
      · rw [if_neg hname, isValidNameLabel_isOk_iff]

theorem validate_correct {attr : NameAttribute} {status : Bool} (hzero : 0 ∉ name)
    (h : attr.validate name = .ok status) : status = true ↔ attr.ValidName name := by
  cases attr with
  | interfaceConfiguration =>
      rw [validate] at h
      by_cases hname : name = []
      · rw [if_neg (not_not.mpr hname)] at h
        obtain rfl := Except.ok.inj h
        exact iff_of_true rfl (.inl hname)
      · rw [if_pos hname, InMemory.isValidDomain_unterminated hzero] at h
        split at h
        · next hempty =>
            obtain rfl := Except.ok.inj h
            exact iff_of_false Bool.false_ne_true (not_or.mpr ⟨hname, hempty.not_isDomain⟩)
        · cases h
  | hostName =>
      rw [validate, InMemory.isValidNameLabel_unterminated hzero] at h
      split at h
      · cases h
      · next hname =>
          split at h
          · cases h
          · next hfront =>
              obtain rfl := Except.ok.inj h
              exact iff_of_false Bool.false_ne_true fun hlabel => hfront hlabel.isLabelFront

end Validation

section Beyond

open NameAttribute

variable {name beyond : List UInt8}

theorem cString_of_terminated {string : List UInt8} (hzero : 0 ∉ string) :
    cString (string ++ 0 :: beyond) = string := by
  have hall : ∀ byte ∈ string, decide (byte ≠ 0) = true := fun byte hbyte =>
    decide_eq_true (ne_of_mem_of_not_mem hbyte hzero)
  rw [cString, List.takeWhile_append_of_pos hall, List.takeWhile_cons_of_neg (by decide),
    List.append_nil]

theorem cString_append (hzero : 0 ∉ name) : cString (name ++ beyond) = name ++ cString beyond :=
  List.takeWhile_append_of_pos fun _ hbyte =>
    decide_eq_true (ne_of_mem_of_not_mem hbyte hzero)

theorem IsLabel.front (h : IsLabel (name ++ beyond)) : IsLabelFront name := by
  cases name with
  | nil => exact (by decide : IsLabelFront [])
  | cons first name =>
      have hfront := h.isLabelFront
      exact ⟨hfront.1, fun byte hbyte => hfront.2 byte (List.mem_append_left _ hbyte)⟩

theorem HasEmptyLabel.append (h : HasEmptyLabel name) : HasEmptyLabel (name ++ beyond) := by
  induction name using splitInduction (0x2E : UInt8) with
  | last label hdot => exact absurd h (hasEmptyLabel_whole hdot)
  | cut label rest hdot ih =>
      rw [List.append_assoc, List.cons_append, hasEmptyLabel_cut hdot]
      exact ((hasEmptyLabel_cut hdot).mp h).imp_right ih

/-- A check that ends inside the name does not depend on what lies behind it. -/
theorem isValidNameLabel_beyond {status : Bool}
    (h : InMemory.isValidNameLabel name = .ok status) :
    isValidNameLabel (cString (name ++ beyond)) = status := by
  by_cases hzero : 0 ∈ name
  · obtain ⟨label, rest, rfl, hlabel⟩ := List.eq_append_cons_of_mem hzero
    rw [InMemory.isValidNameLabel_terminated hlabel] at h
    rw [List.append_assoc, List.cons_append, cString_of_terminated hlabel]
    exact Except.ok.inj h
  · rw [InMemory.isValidNameLabel_unterminated hzero] at h
    split at h
    · cases h
    · next hfront =>
        obtain rfl := Except.ok.inj h
        rw [cString_append hzero, Bool.eq_false_iff, ne_eq, isValidNameLabel_iff]
        exact fun hlabel => hfront hlabel.front

theorem isValidDomain_beyond {checked : Bool × List UInt8}
    (h : InMemory.isValidDomain name = .ok checked) :
    isValidDomain (cString (name ++ beyond)) = checked.1 := by
  by_cases hzero : 0 ∈ name
  · obtain ⟨domain, rest, rfl, hdomain⟩ := List.eq_append_cons_of_mem hzero
    rw [InMemory.isValidDomain_terminated hdomain] at h
    rw [List.append_assoc, List.cons_append, cString_of_terminated hdomain]
    exact congrArg Prod.fst (Except.ok.inj h)
  · rw [InMemory.isValidDomain_unterminated hzero] at h
    split at h
    · next hempty =>
        obtain rfl := Except.ok.inj h
        rw [cString_append hzero, Bool.eq_false_iff, ne_eq, isValidDomain_iff]
        exact hempty.append.not_isDomain
    · cases h

theorem isValidDomainName_beyond {domainName : CipString} {status : Bool}
    (h : InMemory.isValidDomainName domainName = .ok status) :
    (domainName.length = 0 || isValidDomain (cString (domainName.string ++ beyond))) =
      status := by
  rw [InMemory.isValidDomainName] at h
  by_cases hlength : domainName.length = 0
  · rw [if_neg (fun hpos => UInt16.pos_iff_ne_zero.mp hpos hlength)] at h
    rw [decide_eq_true hlength, Bool.true_or]
    exact Except.ok.inj h
  · rw [if_pos (UInt16.pos_iff_ne_zero.mpr hlength)] at h
    rw [decide_eq_false hlength, Bool.false_or]
    cases hdomain : InMemory.isValidDomain domainName.string with
    | error fault => rw [hdomain] at h; cases h
    | ok checked =>
        rw [hdomain] at h
        rw [isValidDomain_beyond hdomain]
        exact Except.ok.inj h

end Beyond

section Requests

open NameAttribute CipTcpIpObject

variable {attr : NameAttribute} {cfg : Config} {st : StackState} {tcpip : CipTcpIpObject}
  {request : MessageRouterRequest}

/-- A request that fails an earlier check is refused before its name is read. -/
theorem decode_of_not_reachesName (h : ¬ attr.reachesName cfg st tcpip request.data) :
    ∃ moved generalStatus, attr.decode cfg st tcpip request =
        .ok (refusedTcpIp tcpip moved generalStatus) ∧ generalStatus ≠ GeneralStatus.success := by
  cases attr with
  | interfaceConfiguration =>
      simp only [NameAttribute.decode, InMemory.decodeInterfaceConfiguration]
      split
      · exact ⟨_, _, rfl, by decide⟩
      split
      · exact ⟨_, _, rfl, by decide⟩
      split
      · exact ⟨_, _, rfl, by decide⟩
      split
      · exact ⟨_, _, rfl, by decide⟩
      · next hactive hstatic hlength hvalid =>
          refine absurd ⟨?_, ?_, ?_, ?_⟩ h
          · exact Bool.eq_false_iff.mpr hactive
          · exact not_not.mp hstatic
          · exact UInt16.not_lt.mp hlength
          · simpa using hvalid
  | hostName =>
      have hlong : request.data.getUint.1 > 64 := UInt16.not_le.mp h
      refine ⟨2, GeneralStatus.tooMuchData, ?_, by decide⟩
      simp only [NameAttribute.decode, InMemory.decodeHostName]
      rw [if_pos hlong]

theorem decode_of_reachesName (h : attr.reachesName cfg st tcpip request.data) :
    attr.decode cfg st tcpip request =
      (attr.validate (attr.name request.data)).map fun valid =>
        if !valid then attr.refused tcpip else attr.stored tcpip request.data := by
  cases attr with
  | interfaceConfiguration =>
      obtain ⟨hactive, hstatic, hlength, hvalid⟩ := h
      have hactive : ¬ st.isIOConnectionActive cfg = true := Bool.eq_false_iff.mp hactive
      simp only [NameAttribute.decode, InMemory.decodeInterfaceConfiguration]
      rw [if_neg hactive, if_neg (not_not.mpr hstatic), if_neg (UInt16.not_lt.mpr hlength),
        if_neg (by rw [hvalid]; decide), isValidDomainName_eq]
      rfl
  | hostName =>
      have hshort : ¬ request.data.getUint.1 > 64 := UInt16.not_lt.mpr h
      have hlength : request.data.getUint.1 = 0 ↔ hostName.name request.data = [] :=
        CipString.length_eq_zero_iff (CipString.setByData request.data.getUint.1 _)
      simp only [NameAttribute.decode, InMemory.decodeHostName, validate]
      rw [if_neg hshort]
      by_cases hempty : request.data.getUint.1 = 0
      · rw [if_pos hempty, if_pos (hlength.mp hempty)]
        rfl
      · rw [if_neg hempty, if_neg fun h => hempty (hlength.mpr h)]
        rfl

/-- The validation stays inside the name if the request does not reach it, or if there is
something in the name that ends it. -/
theorem looksOnlyAtName_iff (attr : NameAttribute) (cfg : Config) (st : StackState)
    (tcpip : CipTcpIpObject) (request : MessageRouterRequest) :
    attr.LooksOnlyAtName cfg st tcpip request ↔
      (attr.reachesName cfg st tcpip request.data →
        attr.StopsInside (attr.name request.data)) := by
  by_cases hreaches : attr.reachesName cfg st tcpip request.data
  · rw [LooksOnlyAtName, decode_of_reachesName hreaches, ← validate_isOk_iff]
    have hrefused : (attr.refused tcpip).generalStatus ≠ GeneralStatus.success ∧
        (attr.refused tcpip).data = tcpip := by
      have hne : GeneralStatus.invalidAttributeValue ≠ GeneralStatus.success := by decide
      cases attr <;> exact ⟨hne, rfl⟩
    have hstored : (attr.stored tcpip request.data).generalStatus = GeneralStatus.success := by
      cases attr <;> rfl
    cases hvalidate : attr.validate (attr.name request.data) with
    | error fault =>
        refine iff_of_false ?_ ?_
        · rintro ⟨decoded, hdecoded, -⟩
          cases hdecoded
        · intro h
          obtain ⟨status, hstatus⟩ := h hreaches
          cases hstatus
    | ok status =>
        refine iff_of_true ⟨_, rfl, fun hzero _ => ?_, ?_⟩ fun _ => ⟨status, rfl⟩
        · rw [← validate_correct hzero hvalidate]
          cases status with
          | false => exact iff_of_false hrefused.1 Bool.false_ne_true
          | true => exact iff_of_true hstored rfl
        · cases status with
          | false => exact fun _ => hrefused.2
          | true => exact fun h => absurd hstored h
  · obtain ⟨moved, generalStatus, hdecode, hne⟩ := decode_of_not_reachesName hreaches
    exact iff_of_true
      ⟨_, hdecode, fun _ h => absurd h hreaches, fun _ => rfl⟩ fun h => absurd h hreaches

theorem decodeHostName_beyond {decoded : Decoded CipTcpIpObject} (beyond : List UInt8)
    (h : InMemory.decodeHostName tcpip request = .ok decoded) :
    decodeHostName beyond tcpip request = .ok decoded := by
  simp only [InMemory.decodeHostName] at h
  simp only [decodeHostName]
  split at h
  · next hlong => rw [if_pos hlong, h]
  split at h
  · cases h
  · next hlong hempty =>
      rw [if_neg hlong, if_neg hempty]
      cases hlabel : InMemory.isValidNameLabel
          (CipString.setByData request.data.getUint.1 request.data.getUint.2).string with
      | error fault => rw [hlabel] at h; cases h
      | ok status =>
          rw [hlabel] at h
          rw [isValidNameLabel_beyond hlabel, ← h]
          cases status <;> rfl

theorem decodeInterfaceConfiguration_beyond {decoded : Decoded CipTcpIpObject}
    (beyond : List UInt8)
    (h : InMemory.decodeInterfaceConfiguration cfg st tcpip request = .ok decoded) :
    decodeCipTcpIpInterfaceConfiguration cfg st beyond tcpip request = decoded := by
  simp only [InMemory.decodeInterfaceConfiguration] at h
  simp only [decodeCipTcpIpInterfaceConfiguration, isValidInterfaceConfiguration]
  split at h
  · next hactive => rw [if_pos hactive, Except.ok.inj h]
  split at h
  · next hactive hstatic => rw [if_neg hactive, if_pos hstatic, Except.ok.inj h]
  split at h
  · next hactive hstatic hlength =>
      rw [if_neg hactive, if_neg hstatic, if_pos hlength, Except.ok.inj h]
  next hactive hstatic hlength =>
    rw [if_neg hactive, if_neg hstatic, if_neg hlength]
    rcases Bool.eq_false_or_eq_true
      (isValidNetworkConfig (receivedInterfaceConfiguration request.data)) with hnetwork | hnetwork
    · rw [hnetwork, if_neg (by decide)] at h
      cases hdomain : InMemory.isValidDomainName
          (receivedInterfaceConfiguration request.data).domainName with
      | error fault => rw [hdomain] at h; cases h
      | ok status =>
          rw [hdomain] at h
          simp only [hnetwork, isValidDomainName_beyond hdomain, Bool.true_and]
          exact Except.ok.inj h
    · rw [hnetwork, if_pos (by decide)] at h
      simp only [hnetwork, Bool.false_and]
      exact Except.ok.inj h

/-- The valid host name `pump` is read past its end. -/
theorem looksOnlyAtName_pump :
    hostName.name [4, 0, 0x70, 0x75, 0x6D, 0x70] = [0x70, 0x75, 0x6D, 0x70] ∧
      IsLabel [0x70, 0x75, 0x6D, 0x70] ∧
      InMemory.decodeHostName gTcpip ⟨0x10, 6, [4, 0, 0x70, 0x75, 0x6D, 0x70]⟩ =
        .error .outOfBounds ∧
      ¬ hostName.LooksOnlyAtName SampleApplication.config
        (initialState SampleApplication.config SampleApplication.assemblyData) gTcpip
          ⟨0x10, 6, [4, 0, 0x70, 0x75, 0x6D, 0x70]⟩ := by
  refine ⟨by decide, (isValidNameLabel_iff _).mp (by decide), by decide, ?_⟩
  rintro ⟨decoded, hdecoded, -⟩
  cases hdecoded

end Requests

end Opener
