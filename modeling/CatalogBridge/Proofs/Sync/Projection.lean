import CatalogBridge.Kubernetes.Projection
import Mathlib.Data.List.Basic

/-!
# Which services are projected, and into what

A service is projected if four things hold of it, which are checked one after the
other. Its port and its address family are read off different instances: the port
off the first one, the family off the first one that has an address.

* `ServiceState.Projectable` says what a service needs, and `ServiceState.Refused`
  which error it gets for the first thing that it lacks. Every service is one or
  the other (`projectable_or_refused`).
* `Projection.Describes` says what the projection of a service is, part by part.
* `projected_iff_of_state` puts them together: a service is projected exactly if it is
  projectable, and what comes out describes it.
-/

namespace CatalogBridge

/-! ## Slices -/

namespace EndpointSlice

variable {instances : List Instance} {member : Instance}

/-- The instance is the first one that has an address. -/
def FirstAddressed (instances : List Instance) (member : Instance) : Prop :=
  member.address ≠ "" ∧ ∃ before behind, instances = before ++ member :: behind ∧
    ∀ other ∈ before, other.address = ""

/-- The instances that have an address of the same family as a given one, in order. -/
def alike (instances : List Instance) (member : Instance) : List Instance :=
  instances.filter fun other => other.address ≠ "" ∧
    AddressType.ofAddress other.address = AddressType.ofAddress member.address

/-- The slice that lists the instances with an address of the same family as a given one. -/
def listing (name namespaceName : String) (port : Int) (instances : List Instance)
    (member : Instance) : EndpointSlice where
  metadata := ⟨some (Name.slice name), some namespaceName, Labels.managedSlice name⟩
  addressType := some (.ofAddress member.address)
  addresses := (alike instances member).map (·.address)
  ports := [port]

theorem FirstAddressed.mem (h : FirstAddressed instances member) : member ∈ instances := by
  obtain ⟨_, before, behind, rfl, _⟩ := h
  exact List.mem_append_right _ List.mem_cons_self

/-- The first instance that has an address is of its own family, so it is listed. -/
theorem FirstAddressed.mem_alike (h : FirstAddressed instances member) :
    member ∈ alike instances member :=
  List.mem_filter.2 ⟨h.mem, by simpa using h.1⟩

/-- The first address is that of the first instance that has one. -/
theorem FirstAddressed.firstAddress? (h : FirstAddressed instances member) :
    firstAddress? instances = some member.address := by
  obtain ⟨haddress, before, behind, rfl, hbefore⟩ := h
  have hnone : (before.map (·.address)).find? (· ≠ "") = none := by
    simpa using hbefore
  rw [EndpointSlice.firstAddress?, List.map_append, List.find?_append, hnone, List.map_cons,
    List.find?_cons_of_pos (by simpa using haddress), Option.none_or]

/-- Where some instance has an address, there is a first one. -/
theorem exists_firstAddressed (h : ∃ member ∈ instances, member.address ≠ "") :
    ∃ member, FirstAddressed instances member := by
  induction instances with
  | nil =>
    obtain ⟨_, hmember, _⟩ := h
    cases hmember
  | cons first rest ih =>
    by_cases hfirst : first.address = ""
    · obtain ⟨member, hmember, haddress⟩ := h
      have hrest : member ∈ rest := by
        rcases List.mem_cons.1 hmember with rfl | hrest
        · exact absurd hfirst haddress
        · exact hrest
      obtain ⟨found, hfound, before, behind, rfl, hbefore⟩ := ih ⟨member, hrest, haddress⟩
      exact ⟨found, hfound, first :: before, behind, rfl,
        List.forall_mem_cons.2 ⟨hfirst, hbefore⟩⟩
    · exact ⟨first, hfirst, [], rest, rfl, by simp⟩

/-- The slice of instances of which some has an address. -/
theorem FirstAddressed.build (h : FirstAddressed instances member) (name namespaceName : String)
    (port : Int) : ∃ notices, EndpointSlice.build name namespaceName port instances
      = .ok (listing name namespaceName port instances member, notices) := by
  have hlists : instances.filter (lists (.ofAddress member.address)) = alike instances member := by
    refine List.filter_congr ?_
    intro other _
    rw [lists, Bool.decide_and]
  refine ⟨instances.filterMap (omission? name (.ofAddress member.address)), ?_⟩
  rw [EndpointSlice.build, h.firstAddress?]
  simp only [hlists]
  rfl

/-- There is no slice of instances without an address. -/
theorem build_of_unaddressed (h : ∀ member ∈ instances, member.address = "")
    (name namespaceName : String) (port : Int) :
    EndpointSlice.build name namespaceName port instances
      = .error (.invalidService name "no instance has an address") := by
  have hnone : EndpointSlice.firstAddress? instances = none := by
    simpa [EndpointSlice.firstAddress?] using h
  rw [EndpointSlice.build, hnone]

end EndpointSlice

/-! ## Projections -/

theorem validatePort_of_mem {port : Int} (h : 1 ≤ port ∧ port ≤ 65535) (service : String) :
    validatePort service port = .ok port :=
  if_pos h

theorem validatePort_of_not_mem {port : Int} (h : ¬ (1 ≤ port ∧ port ≤ 65535))
    (service : String) : validatePort service port
      = .error (.invalidService service ("port " ++ toString port ++ " is outside 1-65535")) :=
  if_neg h

/-- What a service needs in order to be projected. -/
structure ServiceState.Projectable (state : ServiceState) : Prop where
  named : Name.sanitize state.name ≠ ""
  port : ∃ first rest, state.instances = first :: rest ∧ 1 ≤ first.port ∧ first.port ≤ 65535
  addressed : ∃ member ∈ state.instances, member.address ≠ ""

/-- The error of a service that is not projected, by the first thing that it lacks. -/
inductive ServiceState.Refused (state : ServiceState) : Error → Prop
  | nameless (hname : Name.sanitize state.name = "") :
      Refused state
        (.invalidService state.name "name has no characters valid in a Kubernetes name")
  | empty (hname : Name.sanitize state.name ≠ "") (hinstances : state.instances = []) :
      Refused state (.invalidService state.name "no healthy instances")
  | outOfRange (hname : Name.sanitize state.name ≠ "") {first : Instance} {rest : List Instance}
      (hinstances : state.instances = first :: rest)
      (hport : ¬ (1 ≤ first.port ∧ first.port ≤ 65535)) :
      Refused state (.invalidService state.name
        ("port " ++ toString first.port ++ " is outside 1-65535"))
  | unaddressed (hname : Name.sanitize state.name ≠ "") {first : Instance} {rest : List Instance}
      (hinstances : state.instances = first :: rest)
      (hport : 1 ≤ first.port ∧ first.port ≤ 65535)
      (haddress : ∀ member ∈ state.instances, member.address = "") :
      Refused state (.invalidService (Name.sanitize state.name) "no instance has an address")

/-- The projection is that of the service: it has the service's name and the port of the first
instance, and its slice lists the instances with an address of the same family as the first one. -/
structure Projection.Describes (projection : Projection) (state : ServiceState)
    (namespaceName : String) : Prop where
  name : projection.name = Name.sanitize state.name
  port : ∃ first rest, state.instances = first :: rest ∧ projection.port = first.port
  service : projection.service
    = ServiceObject.build projection.name namespaceName projection.port
  slice : ∃ member, EndpointSlice.FirstAddressed state.instances member ∧ projection.slice
    = .listing projection.name namespaceName projection.port state.instances member

namespace Projection

variable {state : ServiceState} {namespaceName : String} {error : Error} {projection : Projection}

/-- Every service can be projected or is refused. -/
theorem projectable_or_refused (state : ServiceState) :
    state.Projectable ∨ ∃ error, state.Refused error := by
  by_cases hname : Name.sanitize state.name = ""
  · exact Or.inr ⟨_, .nameless hname⟩
  · cases hinstances : state.instances with
    | nil => exact Or.inr ⟨_, .empty hname hinstances⟩
    | cons first rest =>
      by_cases hport : 1 ≤ first.port ∧ first.port ≤ 65535
      · by_cases haddress : ∃ member ∈ state.instances, member.address ≠ ""
        · exact Or.inl ⟨hname, ⟨first, rest, hinstances, hport⟩, haddress⟩
        · push Not at haddress
          exact Or.inr ⟨_, .unaddressed hname hinstances hport haddress⟩
      · exact Or.inr ⟨_, .outOfRange hname hinstances hport⟩

/-- A service that is refused gets its error. -/
theorem build_of_refused (h : state.Refused error) (namespaceName : String) :
    Projection.build state namespaceName = .error error := by
  unfold Projection.build
  cases h with
  | nameless hname => exact if_pos hname
  | empty hname hinstances => rw [if_neg hname, hinstances]
  | outOfRange hname hinstances hport =>
    simp only [if_neg hname, hinstances, validatePort_of_not_mem hport]
    rfl
  | unaddressed hname hinstances hport haddress =>
    have hslice := EndpointSlice.build_of_unaddressed haddress (Name.sanitize state.name)
      namespaceName
    rw [hinstances] at hslice
    simp only [if_neg hname, hinstances, validatePort_of_mem hport, bind, Except.bind, hslice]

/-- A service that can be projected gets a projection that describes it. -/
theorem build_of_projectable (h : state.Projectable) (namespaceName : String) :
    ∃ projection notices, Projection.build state namespaceName = .ok (projection, notices) ∧
      projection.Describes state namespaceName := by
  obtain ⟨hname, ⟨first, rest, hinstances, hport⟩, haddressed⟩ := h
  obtain ⟨member, hmember⟩ := EndpointSlice.exists_firstAddressed haddressed
  obtain ⟨notices, hslice⟩ := hmember.build (Name.sanitize state.name) namespaceName first.port
  have hbuild : Projection.build state namespaceName = .ok (⟨Name.sanitize state.name, first.port,
      .build (Name.sanitize state.name) namespaceName first.port,
      .listing (Name.sanitize state.name) namespaceName first.port state.instances member⟩,
      notices) := by
    unfold Projection.build
    rw [hinstances] at hslice
    simp only [if_neg hname, hinstances, validatePort_of_mem hport, bind, Except.bind, hslice]
    rfl
  exact ⟨_, notices, hbuild, rfl, ⟨first, rest, hinstances, rfl⟩, rfl, member, hmember, rfl⟩

theorem projectable_of_build {built : Projection × List Notice}
    (h : Projection.build state namespaceName = .ok built) : state.Projectable := by
  rcases projectable_or_refused state with hprojectable | ⟨error, hrefused⟩
  · exact hprojectable
  · rw [build_of_refused hrefused] at h
    cases h

theorem describes_of_build {notices : List Notice}
    (h : Projection.build state namespaceName = .ok (projection, notices)) :
    projection.Describes state namespaceName := by
  obtain ⟨built, told, hbuild, hdescribes⟩ :=
    build_of_projectable (projectable_of_build h) namespaceName
  obtain ⟨rfl, _⟩ := Prod.mk.inj (Except.ok.inj (hbuild.symm.trans h))
  exact hdescribes

theorem build_eq_error_iff :
    Projection.build state namespaceName = .error error ↔ state.Refused error := by
  constructor
  · intro herror
    rcases projectable_or_refused state with hprojectable | ⟨other, hrefused⟩
    · obtain ⟨_, _, hbuild, _⟩ := build_of_projectable hprojectable namespaceName
      rw [hbuild] at herror
      cases herror
    · obtain rfl := Except.error.inj ((build_of_refused hrefused namespaceName).symm.trans herror)
      exact hrefused
  · exact fun hrefused => build_of_refused hrefused namespaceName

/-- A service is projected exactly if it has a name, a port in range and an address, and else it is
refused as invalid for the first of them that it lacks. A projection describes its service, and its
endpoints, of which there is at least one, are the instances with an address of the same family as
the first one. -/
theorem projected_iff_of_state (state : ServiceState) (namespaceName : String) :
    ((∃ projection notices,
        Projection.build state namespaceName = .ok (projection, notices)) ↔ state.Projectable) ∧
      (∀ error, Projection.build state namespaceName = .error error ↔ state.Refused error) ∧
      ∀ projection notices, Projection.build state namespaceName = .ok (projection, notices) →
        projection.Describes state namespaceName ∧
        ∃ member, EndpointSlice.FirstAddressed state.instances member ∧
          projection.endpoints = (EndpointSlice.alike state.instances member).length ∧
          1 ≤ projection.endpoints := by
  refine ⟨?_, fun error => build_eq_error_iff, ?_⟩
  · constructor
    · intro hbuilt
      obtain ⟨projection, notices, hbuild⟩ := hbuilt
      exact projectable_of_build hbuild
    · intro hprojectable
      obtain ⟨projection, notices, hbuild, _⟩ := build_of_projectable hprojectable namespaceName
      exact ⟨projection, notices, hbuild⟩
  · intro projection notices hbuild
    have hdescribes := describes_of_build hbuild
    obtain ⟨member, hmember, hslice⟩ := hdescribes.slice
    have hcount : projection.endpoints = (EndpointSlice.alike state.instances member).length := by
      rw [Projection.endpoints, hslice]
      exact List.length_map _
    refine ⟨hdescribes, member, hmember, hcount, ?_⟩
    rw [hcount]
    exact List.length_pos_of_mem hmember.mem_alike

end Projection

end CatalogBridge
