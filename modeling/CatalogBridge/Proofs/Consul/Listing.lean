import CatalogBridge.Proofs.Consul.Request
import CatalogBridge.Proofs.Net.Form
import CatalogBridge.Proofs.Number.Decimal

/-!
# What the query for a page asks for

The query for a page of the catalog says in its pairs behind which index the answer
should lie, how long it may take, and which tag the services must carry.
`queryPairs_listRequest` reads the pairs from the query that is sent, and
`decodePairs_listRequest` says what they are: nothing of a tag gets into another pair,
and the index is read as the one that was asked for.
-/

namespace CatalogBridge.CatalogClient

/-- The pairs of the query stand behind those of the base address. -/
theorem queryPairs_listRequest (client : CatalogClient) (index : ChangeIndex) :
    (client.listRequest index).url.queryPairs
      = client.base.queryPairs ++ client.listPairs index := by
  have hpush : (client.base.push ["v1", "catalog", "services"]).queryPairs
      = client.base.queryPairs := by
    rw [Url.queryPairs, Url.queryText, Url.query_push]
    rfl
  exact hpush ▸ Url.queryPairs_addPairs _ _

theorem exists_query_listRequest (client : CatalogClient) (index : ChangeIndex) :
    ∃ query, (client.listRequest index).url.query = some query :=
  Url.exists_query_addPairs _ (List.cons_ne_nil _ _)

theorem waitText_eq (client : CatalogClient) :
    client.waitText = toString (max 1 client.wait.seconds) ++ "s" := by
  rw [waitText, Nat.max_comm]

/-- The query for a page, at every base address without a query: its pairs are the index in base
ten, the whole seconds that it may wait, but at least one, and the tag, unless it is empty. Of the
first one the index is read that was asked for. -/
theorem decodePairs_listRequest {client : CatalogClient} {index : ChangeIndex}
    (hbase : client.base.query = none) (hindex : index.value < Numeral.bound64) :
    ∃ query, (client.listRequest index).url.query = some query ∧
      Form.decodePairs query.toList =
        [("index", toString index.value), ("wait", toString (max 1 client.wait.seconds) ++ "s")]
          ++ (if client.tag = "" then [] else [("tag", client.tag)]) ∧
      ((Form.decodePairs query.toList).lookup "index").bind
        (fun text => Numeral.parse? Numeral.bound64 text.toList) = some index.value := by
  obtain ⟨query, hquery⟩ := exists_query_listRequest client index
  have hpairs : Form.decodePairs query.toList =
      [("index", toString index.value), ("wait", toString (max 1 client.wait.seconds) ++ "s")]
        ++ (if client.tag = "" then [] else [("tag", client.tag)]) := by
    rw [← Url.queryPairs_of_some hquery, queryPairs_listRequest, Url.queryPairs_of_none hbase,
      List.nil_append, listPairs, waitText_eq, ChangeIndex.render]
  refine ⟨query, hquery, hpairs, ?_⟩
  rw [hpairs]
  exact Numeral.parse?_toString hindex

/-- A client that asks for a tag full of the signs of a query and does not wait. -/
def taggedClient : CatalogClient := { proxyClient with tag := "a b&tag=c+d%20é#", wait := .zero }

/-- The query keeps the greatest index and a tag that looks like more pairs. -/
theorem decodePairs_listRequest_tagged :
    taggedClient.base.query = none ∧ 18446744073709551615 < Numeral.bound64 ∧
      ∃ query, (taggedClient.listRequest ⟨18446744073709551615⟩).url.query = some query ∧
        Form.decodePairs query.toList =
          [("index", "18446744073709551615"), ("wait", "1s"), ("tag", "a b&tag=c+d%20é#")] ∧
        ((Form.decodePairs query.toList).lookup "index").bind
          (fun text => Numeral.parse? Numeral.bound64 text.toList)
            = some 18446744073709551615 := by
  have hindex : 18446744073709551615 < Numeral.bound64 := by decide
  obtain ⟨query, hquery, hpairs, hread⟩ :=
    @decodePairs_listRequest taggedClient ⟨18446744073709551615⟩ rfl hindex
  exact ⟨rfl, hindex, query, hquery, hpairs.trans (by decide +kernel), hread⟩

end CatalogBridge.CatalogClient
