import CatalogBridge.Kubernetes.Route
import CatalogBridge.Proofs.Name.Label
import Mathlib.Data.Set.Function

/-!
# Names of routes

The name of a route is the name of its service, a hyphen, and the name of its gateway.
Both may have hyphens of their own, so a name does not tell where the one ends and the
other begins.

* `route_eq_route_iff` says exactly which other service and gateway have the same route
  name: those between which a part of the name, with a hyphen on either side, has moved
  from the one to the other.
* `injOn_route_iff` says for which gateways no two services that are sanitized share a
  route name. It is enough that they are `Apart`: none ends with a hyphen and another one.
* `route_eq_iff_of_ne` puts both together, for the gateways of any settings.
-/

namespace CatalogBridge

/-- The gateways of the bindings. -/
def RouteSettings.gateways (settings : RouteSettings) : List String :=
  settings.bindings.map (·.gateway)

namespace Name

variable {service gateway other behind middle : String}

/-! ## Shared names -/

/-- A part between two hyphens may belong to the service as well as to the gateway. -/
theorem route_append (service middle gateway : String) :
    route (service ++ "-" ++ middle) gateway = route service (middle ++ "-" ++ gateway) := by
  simp only [route, String.append_assoc]

theorem toList_route (service gateway : String) :
    (route service gateway).toList = service.toList ++ '-' :: gateway.toList := by
  simp [route]

/-- Where the other service's name is longer, it goes on with a hyphen and a part that the first
gateway's name begins with. -/
theorem eq_or_exists_middle {part : List Char} (hother : other.toList = service.toList ++ part)
    (hgateway : '-' :: gateway.toList = part ++ '-' :: behind.toList) :
    (service = other ∧ gateway = behind) ∨
      ∃ middle, other = service ++ "-" ++ middle ∧ gateway = middle ++ "-" ++ behind := by
  rcases List.cons_eq_append_iff.1 hgateway with ⟨rfl, hbehind⟩ | ⟨rest, rfl, hrest⟩
  · refine Or.inl ⟨String.toList_inj.1 ?_, String.toList_inj.1 (List.cons.inj hbehind).2.symm⟩
    rw [hother, List.append_nil]
  · refine Or.inr ⟨String.ofList rest, String.toList_inj.1 ?_, String.toList_inj.1 ?_⟩
    · simp [hother]
    · simp [hrest]

/-- Two routes have one name exactly if they are for one service and gateway, or a part of the name
with a hyphen on either side is at the end of one service's name and at the front of the other
gateway's. -/
theorem route_eq_route_iff : route service gateway = route other behind ↔
    (service = other ∧ gateway = behind) ∨
      ∃ middle, (other = service ++ "-" ++ middle ∧ gateway = middle ++ "-" ++ behind) ∨
        (service = other ++ "-" ++ middle ∧ behind = middle ++ "-" ++ gateway) := by
  constructor
  · intro h
    have hlist := congrArg String.toList h
    rw [toList_route, toList_route] at hlist
    rcases List.append_eq_append_iff.1 hlist with
      ⟨part, hother, hgateway⟩ | ⟨part, hother, hgateway⟩
    · rcases eq_or_exists_middle hother hgateway with heq | ⟨middle, hmiddle⟩
      · exact Or.inl heq
      · exact Or.inr ⟨middle, Or.inl hmiddle⟩
    · rcases eq_or_exists_middle hother hgateway with ⟨rfl, rfl⟩ | ⟨middle, hmiddle⟩
      · exact Or.inl ⟨rfl, rfl⟩
      · exact Or.inr ⟨middle, Or.inr hmiddle⟩
  · rintro (⟨rfl, rfl⟩ | ⟨middle, ⟨rfl, rfl⟩ | ⟨rfl, rfl⟩⟩)
    · rfl
    · exact (route_append service middle behind).symm
    · exact route_append other middle gateway

/-! ## Sanitized services -/

/-- A sanitized name with a hyphen and a part behind it is sanitized exactly if the part is, is not
empty, and there is room for it. -/
theorem sanitize_append_eq_self_iff (hservice : sanitize service = service) (hsome : service ≠ "") :
    sanitize (service ++ "-" ++ middle) = service ++ "-" ++ middle ↔
      middle ≠ "" ∧ sanitize middle = middle ∧
        service.length + 1 + middle.length ≤ maxLength := by
  have hfront : service.toList ≠ [] := fun hnil => hsome (String.toList_eq_nil_iff.1 hnil)
  have hmiddle : middle ≠ "" ↔ middle.toList ≠ [] := not_congr String.toList_eq_nil_iff.symm
  have hlast (hrest : middle.toList ≠ []) :
      (service.toList ++ '-' :: middle.toList).getLast? = middle.toList.getLast? := by
    rw [List.getLast?_append_of_ne_nil _ (List.cons_ne_nil _ _), List.getLast?_cons_of_ne_nil hrest]
  have hlength : (service.toList ++ '-' :: middle.toList).length
      = service.length + 1 + middle.length := by
    simp only [List.length_append, List.length_cons, String.length_toList]
    omega
  rw [sanitize_eq_self_iff, sanitizeChars_eq_self_iff] at hservice
  rw [sanitize_eq_self_iff, sanitize_eq_self_iff, hmiddle, ← route, toList_route,
    sanitizeChars_eq_self_iff, sanitizeChars_eq_self_iff, hlength, String.length_toList]
  constructor
  · intro h
    obtain ⟨htidy, hend, hroom⟩ := h
    have hrest : middle.toList ≠ [] := by
      intro hnil
      rw [hnil] at hend
      simp at hend
    exact ⟨hrest, ⟨htidy.behind_hyphen, hlast hrest ▸ hend, by omega⟩, hroom⟩
  · intro h
    obtain ⟨hrest, ⟨htidy, hend, _⟩, hroom⟩ := h
    exact ⟨hservice.1.append_hyphen hfront hservice.2.1 htidy, (hlast hrest).symm ▸ hend, hroom⟩

/-! ## Gateways -/

/-- The services and gateways that routes are made for: a name that sanitizing gives, and one of the
gateways. -/
def routed (gateways : List String) : Set (String × String) :=
  {pair | (∃ raw, pair.1 = sanitize raw) ∧ pair.1 ≠ "" ∧ pair.2 ∈ gateways}

theorem sanitize_of_mem_routed {gateways : List String} {pair : String × String}
    (h : pair ∈ routed gateways) : sanitize pair.1 = pair.1 := by
  obtain ⟨⟨raw, hraw⟩, -⟩ := h
  rw [hraw, sanitize_idempotent]

/-- A part by which one service's name is longer than another one's is sanitized and not empty, and
leaves room for the other one. -/
theorem sanitize_of_routed {gateways : List String} {first second : String × String}
    (hfirst : first ∈ routed gateways) (hsecond : second ∈ routed gateways)
    (h : second.1 = first.1 ++ "-" ++ middle) :
    sanitize middle = middle ∧ middle ≠ "" ∧ middle.length + 2 ≤ maxLength := by
  have hlong : sanitize (first.1 ++ "-" ++ middle) = first.1 ++ "-" ++ middle := by
    rw [← h]
    exact sanitize_of_mem_routed hsecond
  obtain ⟨hsome, hmiddle, hroom⟩ :=
    (sanitize_append_eq_self_iff (sanitize_of_mem_routed hfirst) hfirst.2.1).1 hlong
  have hpos : first.1.length ≠ 0 := fun hzero => hfirst.2.1 (String.length_eq_zero_iff.1 hzero)
  exact ⟨hmiddle, hsome, by omega⟩

/-- Services share a route name on some of the gateways exactly if one of these is another one with
a hyphen and a sanitized part in front of it, and the part leaves room for a service. -/
theorem injOn_route_iff (gateways : List String) :
    Set.InjOn (fun pair => route pair.1 pair.2) (routed gateways) ↔
      ∀ middle behind, sanitize middle = middle → middle ≠ "" → middle.length + 2 ≤ maxLength →
        behind ∈ gateways → middle ++ "-" ++ behind ∉ gateways := by
  constructor
  · intro hinj middle behind hmiddle hsome hroom hbehind hgateway
    -- The shortest name in front of the part leaves the most room for it.
    have hshort : sanitize "a" = "a" := by decide +kernel
    have hlength : "a".length + 1 + middle.length ≤ maxLength := by
      rw [show "a".length = 1 from rfl]
      omega
    have hlong : sanitize ("a" ++ "-" ++ middle) = "a" ++ "-" ++ middle :=
      (sanitize_append_eq_self_iff hshort (by decide)).2 ⟨hsome, hmiddle, hlength⟩
    have hfirst : ("a", middle ++ "-" ++ behind) ∈ routed gateways :=
      ⟨⟨_, hshort.symm⟩, by simp, hgateway⟩
    have hsecond : ("a" ++ "-" ++ middle, behind) ∈ routed gateways :=
      ⟨⟨_, hlong.symm⟩, by simp, hbehind⟩
    have hsame := hinj hfirst hsecond (route_append "a" middle behind).symm
    simpa using congrArg (·.1.toList) hsame
  · intro hfree first hfirst second hsecond hroute
    rcases route_eq_route_iff.1 hroute with
      ⟨hname, hgateway⟩ | ⟨middle, ⟨hname, hgateway⟩ | ⟨hname, hgateway⟩⟩
    · exact Prod.ext hname hgateway
    · obtain ⟨hmiddle, hsome, hroom⟩ := sanitize_of_routed hfirst hsecond hname
      exact absurd (hgateway ▸ hfirst.2.2) (hfree middle second.2 hmiddle hsome hroom hsecond.2.2)
    · obtain ⟨hmiddle, hsome, hroom⟩ := sanitize_of_routed hsecond hfirst hname
      exact absurd (hgateway ▸ hsecond.2.2) (hfree middle first.2 hmiddle hsome hroom hfirst.2.2)

/-- No gateway is another one with a hyphen and anything in front of it. -/
def Apart (gateways : List String) : Prop :=
  ∀ gateway ∈ gateways, ∀ other ∈ gateways, other ≠ gateway →
    ¬ ('-' :: other.toList) <:+ gateway.toList

instance (gateways : List String) : Decidable (Apart gateways) :=
  inferInstanceAs (Decidable (∀ gateway ∈ gateways, ∀ other ∈ gateways, other ≠ gateway →
    ¬ ('-' :: other.toList) <:+ gateway.toList))

theorem injOn_route_of_apart {gateways : List String} (h : Apart gateways) :
    Set.InjOn (fun pair => route pair.1 pair.2) (routed gateways) := by
  refine (injOn_route_iff gateways).2 fun middle behind _ _ _ hbehind hgateway => ?_
  refine h _ hgateway behind hbehind ?_ ?_
  · intro hsame
    have hlength := congrArg String.length hsame
    simp only [String.length_append] at hlength
    rw [show "-".length = 1 from rfl] at hlength
    omega
  · rw [← route, toList_route]
    exact List.suffix_append middle.toList ('-' :: behind.toList)

/-- When two routes share a name, and for which settings none do.

Two different pairs of a service and a gateway have the same route name exactly if a part of it,
with a hyphen on either side, is at the end of one service's name and at the front of the other
one's gateway; the part may be empty. So the routes of services that are sanitized have different
names if no gateway of the bindings ends with a hyphen and another one. -/
theorem route_eq_iff_of_ne :
    (∀ service gateway other behind : String, (service, gateway) ≠ (other, behind) →
      (route service gateway = route other behind ↔
        ∃ middle, (other = service ++ "-" ++ middle ∧ gateway = middle ++ "-" ++ behind) ∨
          (service = other ++ "-" ++ middle ∧ behind = middle ++ "-" ++ gateway))) ∧
    ∀ settings : RouteSettings, Apart settings.gateways →
      Set.InjOn (fun pair => route pair.1 pair.2) (routed settings.gateways) := by
  refine ⟨fun service gateway other behind hne => ?_, fun settings => injOn_route_of_apart⟩
  rw [route_eq_route_iff, or_iff_right]
  rintro ⟨rfl, rfl⟩
  exact hne rfl

/-- Two services share a route name on gateways one of which ends with the other one, and no two do
on gateways that only begin with the same word. -/
theorem route_eq_iff_of_ne_envoy :
    let settings : RouteSettings := ⟨true, "example.com", "gateways", "http",
      [⟨"internal", "envoy-internal"⟩, ⟨"external", "envoy-external"⟩]⟩
    ("web", "internal-envoy") ≠ ("web-internal", "envoy") ∧
      route "web" "internal-envoy" = route "web-internal" "envoy" ∧
      ("web-", "envoy") ≠ ("web", "-envoy") ∧ route "web-" "envoy" = route "web" "-envoy" ∧
      Apart settings.gateways ∧
      Set.InjOn (fun pair => route pair.1 pair.2) (routed settings.gateways) := by
  intro settings
  obtain ⟨hiff, hinj⟩ := route_eq_iff_of_ne
  have hinternal : ("web", "internal-envoy") ≠ ("web-internal", "envoy") := by decide
  have hempty : ("web-", "envoy") ≠ ("web", "-envoy") := by decide
  have hapart : Apart settings.gateways := by decide +kernel
  exact ⟨hinternal, (hiff _ _ _ _ hinternal).2 ⟨"internal", Or.inl (by decide +kernel)⟩, hempty,
    (hiff _ _ _ _ hempty).2 ⟨"", Or.inr (by decide +kernel)⟩, hapart, hinj settings hapart⟩

end Name

end CatalogBridge
