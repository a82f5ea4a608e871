import Opener.Metatheory.Replies

/-!
Which application connections can be opened. A Forward Open to the Assembly class
is matched against the connection points, and a point that was never configured is
all zero. Instance zero of the Assembly class is the class object, so a request for
it gets past the parser and such a point; every other request opens what the
application has configured.
-/

namespace Opener

/-- A call of one of the three `Configure...ConnectionPoint` functions. -/
inductive ConfigureCall where
  | exclusiveOwner (connectionNumber : Nat) (point : ConnectionPoint)
  | inputOnly (connectionNumber : Nat) (point : ConnectionPoint)
  | listenOnly (connectionNumber : Nat) (point : ConnectionPoint)
deriving DecidableEq, Repr

namespace ConfigureCall

def point : ConfigureCall → ConnectionPoint
  | exclusiveOwner _ point => point
  | inputOnly _ point => point
  | listenOnly _ point => point

/-- The connection number is one that the stack was built for. -/
def InRange (cfg : Config) : ConfigureCall → Prop
  | exclusiveOwner connectionNumber _ => connectionNumber < cfg.numExclusiveOwnerConns
  | inputOnly connectionNumber _ => connectionNumber < cfg.numInputOnlyConns
  | listenOnly connectionNumber _ => connectionNumber < cfg.numListenOnlyConns

end ConfigureCall

namespace Config

/-- The static tables before the application has configured anything. -/
def unconfigured (cfg : Config) : Config :=
  { cfg with
    exclusiveOwnerPoint := fun _ => {}
    inputOnlyPoint := fun _ => {}
    listenOnlyPoint := fun _ => {} }

def configure (cfg : Config) : ConfigureCall → Config
  | .exclusiveOwner connectionNumber point =>
      cfg.configureExclusiveOwnerConnectionPoint connectionNumber point
  | .inputOnly connectionNumber point =>
      cfg.configureInputOnlyConnectionPoint connectionNumber point
  | .listenOnly connectionNumber point =>
      cfg.configureListenOnlyConnectionPoint connectionNumber point

def configured (cfg : Config) (calls : List ConfigureCall) : Config :=
  calls.foldl configure cfg.unconfigured

theorem configured_snoc (cfg : Config) (calls : List ConfigureCall) (call : ConfigureCall) :
    cfg.configured (calls ++ [call]) = (cfg.configured calls).configure call := by
  simp only [configured, List.foldl_append, List.foldl_cons, List.foldl_nil]

/-- The number of connection points of each type, which no call changes. -/
def pointCounts (cfg : Config) : Nat × Nat × Nat :=
  (cfg.numExclusiveOwnerConns, cfg.numInputOnlyConns, cfg.numListenOnlyConns)

theorem configure_pointCounts (cfg : Config) (call : ConfigureCall) :
    (cfg.configure call).pointCounts = cfg.pointCounts := by
  cases call with
  | exclusiveOwner connectionNumber point =>
      simp only [configure, configureExclusiveOwnerConnectionPoint]
      split
      · rfl
      · rfl
  | inputOnly connectionNumber point =>
      simp only [configure, configureInputOnlyConnectionPoint]
      split
      · rfl
      · rfl
  | listenOnly connectionNumber point =>
      simp only [configure, configureListenOnlyConnectionPoint]
      split
      · rfl
      · rfl

theorem configured_pointCounts (cfg : Config) (calls : List ConfigureCall) :
    (cfg.configured calls).pointCounts = cfg.pointCounts := by
  induction calls using List.reverseRecOn with
  | nil => rfl
  | append_singleton calls call ih =>
      rw [configured_snoc, configure_pointCounts, ih]

theorem inRange_of_pointCounts {cfg cfg' : Config} (h : cfg'.pointCounts = cfg.pointCounts)
    {call : ConfigureCall} (hcall : call.InRange cfg') : call.InRange cfg := by
  simp only [pointCounts, Prod.mk.injEq] at h
  obtain ⟨hexclusive, hinput, hlisten⟩ := h
  cases call with
  | exclusiveOwner connectionNumber point => exact Nat.lt_of_lt_of_eq hcall hexclusive
  | inputOnly connectionNumber point => exact Nat.lt_of_lt_of_eq hcall hinput
  | listenOnly connectionNumber point => exact Nat.lt_of_lt_of_eq hcall hlisten

/-- A call writes its point to one entry, or is out of range and does nothing. -/
theorem configure_point (cfg : Config) (call : ConfigureCall) (r : ConnRef) :
    r.point (cfg.configure call) = r.point cfg ∨
      (call.InRange cfg ∧ r.point (cfg.configure call) = call.point) := by
  cases call with
  | exclusiveOwner connectionNumber point =>
      simp only [configure, configureExclusiveOwnerConnectionPoint]
      split
      · rename_i hrange
        cases r with
        | exclusiveOwner i =>
            by_cases hi : i = connectionNumber
            · subst hi
              exact .inr ⟨hrange, Function.update_self ..⟩
            · exact .inl (Function.update_of_ne hi ..)
        | explicit i => exact .inl rfl
        | inputOnly i j => exact .inl rfl
        | listenOnly i j => exact .inl rfl
      · exact .inl rfl
  | inputOnly connectionNumber point =>
      simp only [configure, configureInputOnlyConnectionPoint]
      split
      · rename_i hrange
        cases r with
        | inputOnly i j =>
            by_cases hi : i = connectionNumber
            · subst hi
              exact .inr ⟨hrange, Function.update_self ..⟩
            · exact .inl (Function.update_of_ne hi ..)
        | explicit i => exact .inl rfl
        | exclusiveOwner i => exact .inl rfl
        | listenOnly i j => exact .inl rfl
      · exact .inl rfl
  | listenOnly connectionNumber point =>
      simp only [configure, configureListenOnlyConnectionPoint]
      split
      · rename_i hrange
        cases r with
        | listenOnly i j =>
            by_cases hi : i = connectionNumber
            · subst hi
              exact .inr ⟨hrange, Function.update_self ..⟩
            · exact .inl (Function.update_of_ne hi ..)
        | explicit i => exact .inl rfl
        | exclusiveOwner i => exact .inl rfl
        | inputOnly i j => exact .inl rfl
      · exact .inl rfl

theorem configured_point (cfg : Config) (calls : List ConfigureCall) (r : ConnRef) :
    r.point (cfg.configured calls) = {} ∨
      ∃ call ∈ calls, call.InRange cfg ∧ r.point (cfg.configured calls) = call.point := by
  induction calls using List.reverseRecOn with
  | nil =>
      cases r with
      | explicit i => exact .inl rfl
      | exclusiveOwner i => exact .inl rfl
      | inputOnly i j => exact .inl rfl
      | listenOnly i j => exact .inl rfl
  | append_singleton calls call ih =>
      rw [configured_snoc]
      rcases configure_point (cfg.configured calls) call r with hsame | ⟨hrange, hpoint⟩
      · rw [hsame]
        rcases ih with hzero | ⟨earlier, hmem, hcall⟩
        · exact .inl hzero
        · exact .inr ⟨earlier, List.mem_append_left _ hmem, hcall⟩
      · refine .inr ⟨call, List.mem_append_right _ (List.mem_singleton_self call), ?_, hpoint⟩
        exact inRange_of_pointCounts (cfg.configured_pointCounts calls) hrange

/-- An assembly that the application created, and not the class object. -/
def IsAssembly (cfg : Config) (cipInstance : Option UInt16) : Prop :=
  ∃ instanceNumber instances, cipInstance = some instanceNumber ∧ instanceNumber ≠ 0 ∧
    cfg.getCipClass assemblyClassCode = some instances ∧ instanceNumber ∈ instances

theorem isAssembly_of_getAssemblyInstance {cfg : Config} {instanceNumber : UInt16}
    (hnonzero : instanceNumber ≠ 0)
    (h : cfg.getAssemblyInstance instanceNumber = .ok (some instanceNumber)) :
    cfg.IsAssembly (some instanceNumber) := by
  rw [getAssemblyInstance] at h
  split at h
  · split at h
    · cases h
    · cases h
  · rename_i instances hclass
    rw [Except.ok.injEq, getCipInstance, if_neg hnonzero] at h
    exact ⟨instanceNumber, instances, rfl, hnonzero, hclass, List.mem_of_find?_eq_some h⟩

end Config

namespace CipConnectionObject

/-- The instance numbers of a request that a connection point is matched with. -/
def instanceTriple (c : CipConnectionObject) : ConnectionPoint :=
  { outputAssembly := c.consumedPath.instanceId.toUInt32
    inputAssembly := c.producedPath.instanceId.toUInt32
    configAssembly := c.configurationPath.instanceId.toUInt32 }

/-- The request goes to assemblies, and not to their class object, in every
direction that it has. -/
structure Addressed (c : CipConnectionObject) : Prop where
  assembly : c.configurationPath.classId = assemblyClassCode
  consumed : c.oToTConnectionType ≠ .null → c.consumedPath.instanceId ≠ 0
  produced : c.tToOConnectionType ≠ .null → c.producedPath.instanceId ≠ 0

end CipConnectionObject

namespace StackState

variable {cfg : Config} {env : Environment} {st : StackState}

/-- What a request opens was configured and connects assemblies. -/
structure OpensConfigured (cfg : Config) (calls : List ConfigureCall)
    (d : CipConnectionObject) (st st' : StackState) : Prop where
  configured : ∃ call ∈ calls, call.InRange cfg ∧ call.point = d.instanceTriple
  connection : ∃ r, opened (cfg.configured calls) st st' = [r] ∧
    (d.oToTConnectionType ≠ .null →
      (cfg.configured calls).IsAssembly (st'.conn r).consumingInstance) ∧
    (d.tToOConnectionType ≠ .null →
      (cfg.configured calls).IsAssembly (st'.conn r).producingInstance)

theorem openConnection_assembly
    (h : st.dummy.configurationPath.classId = assemblyClassCode) :
    st.openConnection cfg env = st.establishIoConnection cfg env := by
  have hne : messageRouterClassCode ≠ assemblyClassCode := by decide
  rw [openConnection]
  simp [Config.connectionManagementList, h, hne]

/-- A request that gets to an open function has a direction that is not null. -/
theorem forwardOpenRequest_directed {isLarge : Bool} {request : MessageRouterRequest}
    {originatorAddress : SockaddrIn} {encapsulationSession : UInt32} {st₁ : StackState}
    (h : st.forwardOpenRequest cfg env isLarge request originatorAddress
      encapsulationSession = .ok (none, st₁)) :
    st₁.dummy.oToTConnectionType ≠ .null ∨ st₁.dummy.tToOConnectionType ≠ .null := by
  simp only [forwardOpenRequest] at h
  split at h
  · cases h
  · rename_i message st₀ hreceive
    split at h
    · cases h
    · rename_i hrefusal
      have hdirected : ¬(st₀.dummy.oToTConnectionType = .null ∧
          st₀.dummy.tToOConnectionType = .null) := by
        intro hnull
        simp only [forwardOpenRefusal, hnull] at hrefusal
        simp at hrefusal
      split at h
      · cases h
      · have hrouted := parseConnectionPath_routed cfg message
          request.requestDataSize st₀.dummy st₀.configData
        split at h
        · cases h
        · rename_i s hparse
          cases h
          rw [hparse] at hrouted
          have htypes := CipConnectionObject.unrouted_field hrouted
            (fun c => (c.oToTConnectionType, c.tToOConnectionType)) fun _ => rfl
          rw [Prod.mk.injEq] at htypes
          rw [← htypes.1, ← htypes.2] at hdirected
          exact not_and_or.mp hdirected

/-- A request that addresses assemblies and is opened has a configured point. -/
theorem Chosen.configured {calls : List ConfigureCall} {d : CipConnectionObject}
    {r : ConnRef} (h : Chosen (cfg.configured calls) d r) (haddressed : d.Addressed)
    (hdirected : d.oToTConnectionType ≠ .null ∨ d.tToOConnectionType ≠ .null) :
    ∃ call ∈ calls, call.InRange cfg ∧ call.point = d.instanceTriple := by
  have htriple : r.point (cfg.configured calls) = d.instanceTriple := by
    rw [CipConnectionObject.instanceTriple, h.output, h.input, h.config]
  rcases cfg.configured_point calls r with hzero | ⟨call, hmem, hrange, hpoint⟩
  · rw [htriple, CipConnectionObject.instanceTriple, ConnectionPoint.mk.injEq] at hzero
    obtain ⟨hconsumed, hproduced, -⟩ := hzero
    rcases hdirected with hoToT | htToO
    · refine absurd ?_ (haddressed.consumed hoToT)
      exact UInt16.toUInt32_inj.mp hconsumed
    · refine absurd ?_ (haddressed.produced htToO)
      exact UInt16.toUInt32_inj.mp hproduced
  · exact ⟨call, hmem, hrange, hpoint.symm.trans htriple⟩

theorem Points.isAssembly {length : UInt16 → Nat} {d c : CipConnectionObject}
    (h : CipConnectionObject.Points cfg length d c)
    (haddressed : d.Addressed) :
    (d.oToTConnectionType ≠ .null → cfg.IsAssembly c.consumingInstance) ∧
      (d.tToOConnectionType ≠ .null → cfg.IsAssembly c.producingInstance) := by
  refine ⟨fun hoToT => ?_, fun htToO => ?_⟩
  · obtain ⟨hinstance, hassembly⟩ := h.consuming hoToT
    rw [hinstance] at hassembly ⊢
    exact Config.isAssembly_of_getAssemblyInstance (haddressed.consumed hoToT) hassembly
  · obtain ⟨hinstance, hassembly⟩ := h.producing htToO
    rw [hinstance] at hassembly ⊢
    exact Config.isAssembly_of_getAssemblyInstance (haddressed.produced htToO) hassembly

theorem Points.addressed {length : UInt16 → Nat} {d c : CipConnectionObject}
    (h : CipConnectionObject.Points cfg length d c)
    (hassembly : d.configurationPath.classId = assemblyClassCode)
    (hconsuming : d.oToTConnectionType ≠ .null → cfg.IsAssembly c.consumingInstance)
    (hproducing : d.tToOConnectionType ≠ .null → cfg.IsAssembly c.producingInstance) :
    d.Addressed := by
  refine ⟨hassembly, fun hoToT hzero => ?_, fun htToO hzero => ?_⟩
  · obtain ⟨instanceNumber, instances, hinstance, hnonzero, -⟩ := hconsuming hoToT
    rw [(h.consuming hoToT).1, Option.some.injEq] at hinstance
    exact hnonzero (hinstance.symm.trans hzero)
  · obtain ⟨instanceNumber, instances, hinstance, hnonzero, -⟩ := hproducing htToO
    rw [(h.producing htToO).1, Option.some.injEq] at hinstance
    exact hnonzero (hinstance.symm.trans hzero)

theorem not_isAssembly_none : ¬cfg.IsAssembly none := by
  rintro ⟨instanceNumber, instances, hnone, -⟩
  cases hnone

/-- Outside of the Assembly class nothing is opened that connects assemblies. -/
theorem Answered.not_opensConfigured {calls : List ConfigureCall} {st₀ st₂ : StackState}
    {status : OpenStatus}
    (h : Answered (cfg.configured calls) env st status (st₂.view (cfg.configured calls)))
    (hclass : st.dummy.configurationPath.classId ≠ assemblyClassCode)
    (hdirected : st.dummy.oToTConnectionType ≠ .null ∨ st.dummy.tToOConnectionType ≠ .null)
    (hview : st.view (cfg.configured calls) = st₀.view (cfg.configured calls))
    (hnumber : ∀ s ∈ st₀.connectionList (cfg.configured calls),
      (st₀.conn s).connectionNumber ≠ st.dummy.connectionNumber) :
    ¬OpensConfigured cfg calls st.dummy st₀ st₂ := by
  rintro ⟨-, r', honly, hconsuming, hproducing⟩
  generalize hV : st₂.view (cfg.configured calls) = V at h
  cases h with
  | unchanged failed =>
      have hnobody : opened (cfg.configured calls) st₀ st₂ = [] := by
        refine not_opened_of_persists ?_
        rw [hV, hview]
        exact .refl _
      rw [hnobody] at honly
      cases honly
  | io assembly established => exact hclass assembly
  | @class3 r c unlisted explicit kind established granted =>
      have hentered : Entered (cfg.configured calls) env st.dummy
          (st₀.view (cfg.configured calls)) (st.view (cfg.configured calls)) r
          (st₂.view (cfg.configured calls)) := by
        rw [hV, ← hview]
        exact .of_insert (.refl _) unlisted rfl (fun _ _ => ⟨rfl, rfl⟩) established granted
      rw [opened_of_entered hentered hnumber, List.cons.injEq] at honly
      obtain ⟨rfl, -⟩ := honly
      have hconn : st₂.conn r = c := by
        have hobject : st₂.conn r = (st₂.view (cfg.configured calls)).object r := rfl
        rw [hobject, hV, View.insert_object_self]
      have hinstances := (kind.silent explicit).2.2
      rw [CipConnectionObject.instances, Prod.mk.injEq] at hinstances
      rw [hconn] at hconsuming hproducing
      rcases hdirected with hoToT | htToO
      · have hassembly := hconsuming hoToT
        rw [hinstances.1] at hassembly
        exact not_isAssembly_none hassembly
      · have hassembly := hproducing htToO
        rw [hinstances.2] at hassembly
        exact not_isAssembly_none hassembly

theorem Established.opensConfigured_iff {calls : List ConfigureCall} {st₀ st₂ : StackState}
    {status : OpenStatus}
    (h : Established (cfg.configured calls) env st status (st₂.view (cfg.configured calls)))
    (hassembly : st.dummy.configurationPath.classId = assemblyClassCode)
    (hdirected : st.dummy.oToTConnectionType ≠ .null ∨ st.dummy.tToOConnectionType ≠ .null)
    (hview : st.view (cfg.configured calls) = st₀.view (cfg.configured calls))
    (hnumber : ∀ s ∈ st₀.connectionList (cfg.configured calls),
      (st₀.conn s).connectionNumber ≠ st.dummy.connectionNumber)
    (hsuccess : status.general = GeneralStatus.success) :
    OpensConfigured cfg calls st.dummy st₀ st₂ ↔ st.dummy.Addressed := by
  generalize hV : st₂.view (cfg.configured calls) = V at h
  cases h with
  | nothing failed lookup => exact absurd hsuccess failed
  | refused failed chosen finds instanceType vacated idle => exact absurd hsuccess failed
  | @opened r V₁ V chosen finds instanceType vacated opens granted points =>
      have hentered := Opens.entered vacated opens granted
      rw [hview, ← hV] at hentered
      have honly := opened_of_entered hentered hnumber
      rw [← hV] at points
      constructor
      · rintro ⟨-, r', hopened, hconsuming, hproducing⟩
        rw [honly, List.cons.injEq] at hopened
        obtain ⟨rfl, -⟩ := hopened
        exact Points.addressed points hassembly hconsuming hproducing
      · intro haddressed
        exact ⟨chosen.configured haddressed hdirected, r, honly,
          Points.isAssembly points haddressed⟩

theorem opensConfigured_congr {calls : List ConfigureCall} {d : CipConnectionObject}
    {st₂ st' : StackState} (hanswers : Answers st₂ st') :
    OpensConfigured cfg calls d st st' ↔ OpensConfigured cfg calls d st st₂ := by
  have hconn : ∀ r, st'.conn r = st₂.conn r := fun r => by
    rw [conn, hanswers.store, conn]
  have hlist : st'.connectionList (cfg.configured calls) =
      st₂.connectionList (cfg.configured calls) := by
    rw [connectionList, hanswers.store, connectionList]
  have hopened : opened (cfg.configured calls) st st' =
      opened (cfg.configured calls) st st₂ := by
    simp only [opened, hlist, hconn]
  constructor
  · rintro ⟨hconfigured, r, honly, hconsuming, hproducing⟩
    exact ⟨hconfigured, r, hopened ▸ honly, hconn r ▸ hconsuming, hconn r ▸ hproducing⟩
  · rintro ⟨hconfigured, r, honly, hconsuming, hproducing⟩
    exact ⟨hconfigured, r, hopened.trans honly, (hconn r).symm ▸ hconsuming,
      (hconn r).symm ▸ hproducing⟩

/-- A successful Forward Open opens what was configured exactly when it addresses
assemblies of the application. -/
theorem configured_open_iff {calls : List ConfigureCall}
    (hreachable : Reachable (cfg.configured calls) st) {isLarge : Bool}
    {request : MessageRouterRequest} {originatorAddress : SockaddrIn}
    {encapsulationSession : UInt32} {response : MessageRouterResponse} {st' : StackState}
    (hcall : st.forwardOpenRoutine (cfg.configured calls) env isLarge request
      originatorAddress encapsulationSession = .ok (response, st'))
    (hsuccess : response.generalStatus = GeneralStatus.success) :
    ∃ st₁, st.forwardOpenRequest (cfg.configured calls) env isLarge request
        originatorAddress encapsulationSession = .ok (none, st₁) ∧
      (OpensConfigured cfg calls st₁.dummy st st' ↔ st₁.dummy.Addressed) := by
  rw [forwardOpenRoutine_eq] at hcall
  cases hrequest : st.forwardOpenRequest (cfg.configured calls) env isLarge request
      originatorAddress encapsulationSession with
  | error fault => simp [hrequest] at hcall
  | ok result =>
      obtain ⟨refusal, st₁⟩ := result
      obtain ⟨hreceives, hclass⟩ := forwardOpenRequest_receives hrequest
      obtain ⟨hdemanded, hrefuses⟩ := forwardOpenRequest_demanded hrequest
      cases refusal with
      | some status =>
          simp only [hrequest, Except.ok.injEq] at hcall
          have hfailed := hrefuses status rfl
          have hstatus := (refuse_reply st₁ hfailed).1
          rw [hcall, hsuccess] at hstatus
          exact absurd hstatus.symm hfailed
      | none =>
          refine ⟨st₁, rfl, ?_⟩
          simp only [hrequest] at hcall
          obtain ⟨hsound₁, hrequested⟩ := hreceives.requested hreachable.sound
          have hdirected := forwardOpenRequest_directed hrequest
          obtain ⟨ns, hlisted⟩ := hsound₁.wellFormed
          split at hcall
          · cases hcall
          · rename_i status st₂ hopen
            have hanswers := answerOpenConnection_answers hcall
            rw [opensConfigured_congr hanswers]
            by_cases hassembly : st₁.dummy.configurationPath.classId = assemblyClassCode
            · rw [openConnection_assembly hassembly] at hopen
              obtain ⟨-, -, hestablished⟩ := establishIoConnection_spec hlisted
                hsound₁.regular hrequested (hclass rfl hassembly) hopen
              refine hestablished.opensConfigured_iff hassembly hdirected hreceives.view_eq
                hdemanded.number ?_
              by_contra hfailed
              rw [answerOpenConnection, if_pos hfailed, Except.ok.injEq] at hcall
              have hstatus := (refuse_reply st₂ hfailed).1
              rw [hcall, hsuccess] at hstatus
              exact hfailed hstatus.symm
            · obtain ⟨-, -, hanswered⟩ := openConnection_spec hlisted hsound₁.regular
                hrequested (hclass rfl) hopen
              refine iff_of_false ?_ fun haddressed => hassembly haddressed.assembly
              exact hanswered.not_opensConfigured hassembly hdirected hreceives.view_eq
                hdemanded.number

/-- The calls of the sample application. -/
def samplePoints : List ConfigureCall :=
  [.exclusiveOwner 0 ⟨150, 100, 151⟩, .inputOnly 0 ⟨152, 100, 151⟩,
    .listenOnly 0 ⟨153, 100, 151⟩]

open SampleApplication in
/-- A class 1 request for instance zero in both directions; the sizes are those of
the number of assemblies, which is six. -/
def classObjectRequest : OpenParameters :=
  { exclusiveOwner 1 1 multicast with
    oToTParameters := pointToPoint + 12
    tToOParameters := multicast + 8
    connectionPath := [0x20, 4, 0x24, 0, 0x2C, 0, 0x2C, 0] }

open SampleApplication in
/-- An exclusive owner of the configured point. -/
theorem configured_open_sample :
    ∃ st response st' st₁, Reachable (userConf.configured samplePoints) st ∧
      st.forwardOpenRequest (userConf.configured samplePoints) (environment 1001 21) false
        (openRequest (exclusiveOwner 1 1 multicast)) originator 1 = .ok (none, st₁) ∧
      st.forwardOpenRoutine (userConf.configured samplePoints) (environment 1001 21) false
        (openRequest (exclusiveOwner 1 1 multicast)) originator 1 = .ok (response, st') ∧
      response.generalStatus = GeneralStatus.success ∧ st₁.dummy.Addressed ∧
      OpensConfigured userConf samplePoints st₁.dummy st st' := by
  obtain ⟨st, hreachable, hopens⟩ := reachable_of_ends (userConf.configured samplePoints) []
    (fun st =>
      returns (st.forwardOpenRoutine (userConf.configured samplePoints) (environment 1001 21)
          false (openRequest (exclusiveOwner 1 1 multicast)) originator 1)
        (fun answer => answer.1.generalStatus = GeneralStatus.success) &&
      returns (st.forwardOpenRequest (userConf.configured samplePoints) (environment 1001 21)
          false (openRequest (exclusiveOwner 1 1 multicast)) originator 1)
        fun called => called.2.dummy.configurationPath.classId = assemblyClassCode &&
          called.2.dummy.consumedPath.instanceId ≠ 0 &&
          called.2.dummy.producedPath.instanceId ≠ 0)
    (by decide +kernel)
  rw [Bool.and_eq_true, returns_iff] at hopens
  obtain ⟨⟨⟨response, st'⟩, hcall, hresponse⟩, hcalled⟩ := hopens
  rw [decide_eq_true_eq] at hresponse
  obtain ⟨st₁, hrequest, hiff⟩ := configured_open_iff hreachable hcall hresponse
  rw [hrequest, returns, Bool.and_eq_true, Bool.and_eq_true, decide_eq_true_eq,
    decide_eq_true_eq, decide_eq_true_eq] at hcalled
  obtain ⟨⟨hassembly, hconsumed⟩, hproduced⟩ := hcalled
  have haddressed : st₁.dummy.Addressed :=
    ⟨hassembly, fun _ => hconsumed, fun _ => hproduced⟩
  exact ⟨st, response, st', st₁, hreachable, hrequest, hcall, hresponse, haddressed,
    hiff.mpr haddressed⟩

open SampleApplication in
/-- Without the exclusive-owner point, the request for instance zero is opened, with
the class object of the assemblies. -/
theorem unconfigured_open_sample :
    ∃ st response st' st₁, Reachable (userConf.configured samplePoints.tail) st ∧
      st.forwardOpenRequest (userConf.configured samplePoints.tail) (environment 1001 21)
        false (openRequest classObjectRequest) originator 1 = .ok (none, st₁) ∧
      st.forwardOpenRoutine (userConf.configured samplePoints.tail) (environment 1001 21)
        false (openRequest classObjectRequest) originator 1 = .ok (response, st') ∧
      st₁.dummy.transportClass = .class1 ∧
      response.generalStatus = GeneralStatus.success ∧
      ¬OpensConfigured userConf samplePoints.tail st₁.dummy st st' := by
  obtain ⟨st, hreachable, hopens⟩ :=
    reachable_of_ends (userConf.configured samplePoints.tail) []
    (fun st =>
      returns (st.forwardOpenRoutine (userConf.configured samplePoints.tail)
          (environment 1001 21) false (openRequest classObjectRequest) originator 1)
        (fun answer => answer.1.generalStatus = GeneralStatus.success) &&
      returns (st.forwardOpenRequest (userConf.configured samplePoints.tail)
          (environment 1001 21) false (openRequest classObjectRequest) originator 1)
        fun called => called.1.isNone && called.2.dummy.transportClass = .class1 &&
          samplePoints.tail.all fun call => call.point ≠ called.2.dummy.instanceTriple)
    (by decide +kernel)
  rw [Bool.and_eq_true, returns_iff, returns_iff] at hopens
  obtain ⟨⟨⟨response, st'⟩, hcall, hresponse⟩, ⟨status, st₁⟩, hrequest, hcalled⟩ := hopens
  rw [Bool.and_eq_true, Bool.and_eq_true, decide_eq_true_eq, List.all_eq_true] at hcalled
  obtain ⟨⟨hnone, hclass⟩, hunconfigured⟩ := hcalled
  obtain rfl := Option.isNone_iff_eq_none.mp hnone
  refine ⟨st, response, st', st₁, hreachable, hrequest, hcall, hclass,
    of_decide_eq_true hresponse, ?_⟩
  rintro ⟨⟨call, hmem, -, hpoint⟩, -⟩
  exact of_decide_eq_true (hunconfigured call hmem) hpoint

end StackState

end Opener
