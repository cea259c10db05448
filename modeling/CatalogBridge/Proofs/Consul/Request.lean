import CatalogBridge.Consul.Client
import CatalogBridge.Proofs.Net.Segment

/-!
# What the query for instances asks for

The query for the instances of a service names the service in the last segment of
its path. `Names` says that it does so faithfully: the path is that of the base
address without one slash at its end, then `/v1/health/service`, then exactly one
segment, and that segment decodes to the name.

* `path_instancesRequest` is the path of the query: the name is pushed behind three
  fixed segments.
* `names_iff_of_segments` says that behind a path that is not two slashes the query
  names a service exactly if the name is plain, and `not_names_of_slashes` that
  behind two slashes it names none.
* `eq_of_target_eq` says that queries that name their services are different for
  different services, and `names_iff_of_ofSettings` puts these together for every
  address that the client accepts.
-/

namespace CatalogBridge

namespace Url

/-- The path of an address as text. -/
def pathText (url : Url) : String :=
  match url.path with
  | .segments path => renderPath path
  | .rootless text => text

theorem pathText_of_segments {url : Url} {path : List String} (h : url.path = .segments path) :
    url.pathText = renderPath path := by
  rw [pathText, h]

theorem query_push (url : Url) (segments : List String) :
    (url.push segments).query = url.query := by
  unfold push
  split <;> rfl

/-- Addresses with one query have one target if they have one path. -/
theorem pathText_eq_of_target_eq {first second : Url} (hquery : first.query = second.query)
    (h : first.target = second.target) : first.pathText = second.pathText := by
  have hfirst : first.target = first.pathText ++ _ := rfl
  have hsecond : second.target = second.pathText ++ _ := rfl
  rw [hfirst, hsecond, hquery] at h
  exact String.append_left_inj _ |>.1 h

end Url

namespace CatalogClient

variable {settings : CatalogSettings} {client : CatalogClient} {path : List String}

theorem parse_of_ofSettings (h : ofSettings settings = .ok client) :
    Url.parse settings.address = .ok client.base ∧ ∃ path, client.base.path = .segments path := by
  unfold ofSettings at h
  split at h
  · cases h
  · rename_i base hbase
    split at h
    · rename_i hpath
      obtain rfl := Except.ok.inj h
      refine ⟨hbase, ?_⟩
      unfold Url.hasPath at hpath
      split at hpath
      · exact ⟨_, ‹_›⟩
      · cases hpath
    · cases h

/-- The fixed segments of the query for instances. -/
def healthPath : List String := ["v1", "health", "service"]

theorem pushSegment_of_mem_healthPath (special : Bool) {word : String}
    (hword : word ∈ healthPath) {path : List String} (hpath : path ≠ [""]) :
    Url.pushSegment special path word = path ++ [word] := by
  have hplain : Url.Plain word := by
    revert word
    decide
  have hencode : String.ofList (Percent.encode (Percent.segment special) word.toList) = word := by
    revert special word
    decide +kernel
  rw [Url.pushSegment_of_plain special hpath hplain, hencode]

/-- The first fixed segment stands behind the base path, also where that is empty. -/
theorem pushSegment_popEmpty (special : Bool) (path : List String) :
    Url.pushSegment special (Url.popEmpty path) "v1" = Url.basePath path ++ ["v1"] := by
  rw [Url.basePath]
  split
  case isTrue hroot =>
    rw [hroot]
    cases special <;> rfl
  case isFalse hroot => exact pushSegment_of_mem_healthPath special (by decide) hroot

/-- The name is pushed behind the base path and the fixed segments. -/
theorem path_instancesRequest (h : client.base.path = .segments path) (service : String) :
    (client.instancesRequest service).url.path
      = .segments (Url.pushSegment (Url.isSpecial client.base.scheme)
          (Url.basePath path ++ healthPath) service) := by
  have hfirst : Url.basePath path ++ ["v1"] ≠ [""] := Url.concat_ne_root (by decide)
  have hsecond : Url.basePath path ++ ["v1"] ++ ["health"] ≠ [""] :=
    Url.concat_ne_root (by decide)
  show (client.base.push ["v1", "health", "service", service]).path = _
  rw [Url.push, h]
  simp only [List.foldl_cons, List.foldl_nil]
  rw [pushSegment_popEmpty, pushSegment_of_mem_healthPath _ (by decide) hfirst,
    pushSegment_of_mem_healthPath _ (by decide) hsecond, List.append_assoc, List.append_assoc]
  rfl

theorem query_instancesRequest (client : CatalogClient) (service other : String) :
    (client.instancesRequest service).url.query = (client.instancesRequest other).url.query := by
  show (Url.addPairs (client.base.push _) _).query = (Url.addPairs (client.base.push _) _).query
  rw [Url.addPairs, Url.addPairs, Url.query_push, Url.query_push]

/-- The query for the instances of a service names exactly this service: behind the base path
without its last slash and the fixed segments, its path has one more segment, which decodes to the
name. -/
def Names (client : CatalogClient) (service : String) : Prop :=
  ∃ segment : List Char, '/' ∉ segment ∧ Percent.decode segment = service.toList ∧
    (client.instancesRequest service).url.pathText.toList
      = Url.withoutSlash client.base.pathText.toList ++ "/v1/health/service/".toList ++ segment

/-- Queries that name their services are different for different services. -/
theorem eq_of_target_eq {service other : String} (h : client.Names service)
    (hother : client.Names other) (htarget : (client.instancesRequest service).url.target
      = (client.instancesRequest other).url.target) : service = other := by
  obtain ⟨segment, -, hdecode, htext⟩ := h
  obtain ⟨otherSegment, -, hotherDecode, hotherText⟩ := hother
  have hpath := Url.pathText_eq_of_target_eq (client.query_instancesRequest service other) htarget
  have hsegment : segment = otherSegment := by
    rw [hpath, hotherText] at htext
    exact (List.append_cancel_left htext).symm
  rw [← String.toList_inj, ← hdecode, ← hotherDecode, hsegment]

/-- Whatever the name, the first of the fixed segments stays. -/
theorem exists_pushSegment_healthPath (special : Bool) (service : String) :
    ∃ rest, Url.pushSegment special healthPath service = "v1" :: rest := by
  unfold Url.pushSegment
  rw [if_neg (show healthPath ≠ [""] by decide)]
  split
  · exact ⟨_, rfl⟩
  · unfold Url.addLast
    split
    · exact ⟨_, rfl⟩
    · split
      · exact ⟨_, rfl⟩
      · exact ⟨_, rfl⟩

/-- Behind a path of two slashes the query names no service, because one of them gets lost. -/
theorem not_names_of_slashes (h : client.base.path = .segments ["", ""]) (service : String) :
    ¬ client.Names service := by
  intro hnames
  obtain ⟨segment, -, -, htext⟩ := hnames
  obtain ⟨rest, hrest⟩ :=
    exists_pushSegment_healthPath (Url.isSpecial client.base.scheme) service
  rw [Url.pathText_of_segments (path_instancesRequest h service), Url.pathText_of_segments h,
    show Url.basePath ["", ""] ++ healthPath = healthPath from rfl, hrest,
    Url.toList_renderPath, Url.toList_renderPath] at htext
  have hsecond := congrArg (·[1]?) htext
  have hslash : some 'v' = some '/' := hsecond
  exact absurd hslash (by decide)

/-- A query names its service exactly if the name can be spelled as a segment of a path, unless the
path of the address is two slashes. -/
theorem names_iff_of_segments (h : client.base.path = .segments path) (hfree : Url.SlashFree path)
    (hpath : path ≠ ["", ""]) (service : String) : client.Names service ↔ Url.Plain service := by
  have hbehind : Url.basePath path ++ healthPath ≠ [""] := by
    have hlast : Url.basePath path ++ ["v1", "health"] ++ ["service"] ≠ [""] :=
      Url.concat_ne_root (by decide)
    rwa [List.append_assoc] at hlast
  have htext : (Url.renderPath (Url.basePath path ++ healthPath)).toList ++ ['/']
      = Url.withoutSlash client.base.pathText.toList ++ "/v1/health/service/".toList := by
    rw [Url.pathText_of_segments h, ← Url.renderPath_basePath hfree hpath, Url.toList_renderPath,
      Url.toList_renderPath, List.flatMap_append, List.append_assoc]
    rfl
  rw [← Url.spells_pushSegment_iff (Url.isSpecial client.base.scheme) hbehind, Names, Url.Spells,
    Url.pathText_of_segments (path_instancesRequest h service), ← htext]
  simp only [List.append_assoc, List.singleton_append]

/-- What the query for the instances of a service asks for, at every base address that the client
accepts and for every name.

The path of the query names exactly the service asked for, if and only if the name is not `.` or
`..`, holds no tab and no end of a line, and the path of the base address is not two slashes. Where
it does, no other service is asked for with the same target. -/
theorem names_iff_of_ofSettings (h : ofSettings settings = .ok client) (service : String) :
    (client.Names service ↔
      client.base.path ≠ .segments ["", ""] ∧ Url.Plain service) ∧
    ∀ other, client.Names service → client.Names other →
      (client.instancesRequest service).url.target = (client.instancesRequest other).url.target →
      service = other := by
  obtain ⟨hparse, path, hsegments⟩ := parse_of_ofSettings h
  have hfree : Url.SlashFree path := Url.slashFree_of_parse hparse path hsegments
  refine ⟨?_, fun other hnames hother htarget => eq_of_target_eq hnames hother htarget⟩
  by_cases hslashes : client.base.path = .segments ["", ""]
  · exact iff_of_false (not_names_of_slashes hslashes service) fun hgood => hgood.1 hslashes
  · have hpath : path ≠ ["", ""] := by
      rintro rfl
      exact hslashes hsegments
    rw [names_iff_of_segments hsegments hfree hpath, and_iff_right hslashes]

/-- The settings for a catalog behind a proxy. -/
def proxied : CatalogSettings := .standard "http://10.0.0.1:8500/consul/" "kubernetes"

/-- The client for a catalog behind a proxy. -/
def proxyClient : CatalogClient where
  base := ⟨"http", some (.address (.v4 [10, 0, 0, 1])), some 8500, .segments ["consul", ""], none,
    none⟩
  token := none
  tag := "kubernetes"
  wait := .ofSeconds 300

theorem ofSettings_proxied : ofSettings proxied = .ok proxyClient := by
  have hread : (Url.parse proxied.address).toOption = some proxyClient.base := by decide +kernel
  unfold ofSettings
  cases hparse : Url.parse proxied.address with
  | error cause =>
    rw [hparse] at hread
    cases hread
  | ok base =>
    rw [hparse] at hread
    obtain rfl : base = proxyClient.base := Option.some.inj hread
    rfl

/-- A name with a slash, a percent sign and a blank is asked for as it is, and so is one that only
looks encoded. -/
theorem names_iff_of_proxied :
    proxyClient.Names "a/b c%" ∧ proxyClient.Names "a%2Fb c%" ∧
      ((proxyClient.instancesRequest "a/b c%").url.target
        = (proxyClient.instancesRequest "a%2Fb c%").url.target → "a/b c%" = "a%2Fb c%") := by
  obtain ⟨hiff, hdifferent⟩ := names_iff_of_ofSettings ofSettings_proxied "a/b c%"
  have hnames := hiff.2 (by decide +kernel)
  have hother := (names_iff_of_ofSettings ofSettings_proxied "a%2Fb c%").1.2
    (by decide +kernel)
  exact ⟨hnames, hother, hdifferent _ hnames hother⟩

/-- A name with a tab is not asked for, but the name without the tab is, and a tab between two dots
leads to another endpoint. -/
theorem not_names_of_tab :
    ofSettings proxied = .ok proxyClient ∧ ¬ proxyClient.Names "a\tb" ∧
      (proxyClient.instancesRequest "a\tb").url.target
        = (proxyClient.instancesRequest "ab").url.target ∧
      (proxyClient.instancesRequest ".\t.").url.target = "/consul/v1/health/?passing=true" := by
  refine ⟨ofSettings_proxied, ?_, by decide +kernel, by decide +kernel⟩
  rw [names_iff_of_segments rfl (by decide +kernel) (by decide)]
  decide +kernel

end CatalogClient

end CatalogBridge
