import CatalogBridge.Net.Url

/-!
# Pairs in a query

Pairs that are put into a query are read from it, one by one and whatever text they
hold.

* `Form.pieces_append` says that a text is cut at a separator wherever it stands, so
  queries that are joined with an ampersand stand for the pairs of both
  (`Form.decodePairs_append`).
* `Form.decodePairs_encodePairs` reads the pairs back: no encoded pair is cut, because
  its two fields hold no separator.
* `Url.queryPairs_addPairs` is the same for the query of an address that has pairs
  already.
-/

namespace CatalogBridge

namespace Form

/-! ## Cutting at ampersands -/

theorem pieces_separator (separator : Char) (rest : List Char) :
    pieces separator (separator :: rest) = [] :: pieces separator rest := by
  rw [pieces, if_pos rfl]

theorem pieces_cons {separator c : Char} (hc : c ≠ separator) {rest piece : List Char}
    {others : List (List Char)} (hrest : pieces separator rest = piece :: others) :
    pieces separator (c :: rest) = (c :: piece) :: others := by
  rw [pieces, if_neg hc, hrest]

theorem exists_pieces (separator : Char) (text : List Char) :
    ∃ piece others, pieces separator text = piece :: others := by
  induction text with
  | nil => exact ⟨_, _, rfl⟩
  | cons c rest ih =>
    obtain ⟨piece, others, hrest⟩ := ih
    by_cases hc : c = separator
    · exact ⟨[], pieces separator rest, by rw [hc, pieces_separator]⟩
    · exact ⟨_, _, pieces_cons hc hrest⟩

theorem pieces_append (separator : Char) (front back : List Char) :
    pieces separator (front ++ separator :: back) =
      pieces separator front ++ pieces separator back := by
  induction front with
  | nil => exact pieces_separator separator back
  | cons c rest ih =>
    by_cases hc : c = separator
    · rw [List.cons_append, hc, pieces_separator, pieces_separator, ih]
      rfl
    · obtain ⟨piece, others, hrest⟩ := exists_pieces separator rest
      rw [hrest, List.cons_append] at ih
      rw [List.cons_append, pieces_cons hc ih, pieces_cons hc hrest]
      rfl

theorem pieces_of_not_mem {separator : Char} {text : List Char} (h : separator ∉ text) :
    pieces separator text = [text] := by
  induction text with
  | nil => rfl
  | cons c rest ih =>
    have hc : c ≠ separator := fun hc => h (hc ▸ List.mem_cons_self)
    exact pieces_cons hc (ih fun hrest => h (List.mem_cons_of_mem c hrest))

/-- Queries that are joined with an ampersand stand for the pairs of both. -/
theorem decodePairs_append (front back : List Char) :
    decodePairs (front ++ '&' :: back) = decodePairs front ++ decodePairs back := by
  rw [decodePairs, pieces_append, List.filter_append, List.map_append]
  rfl

/-! ## Encoded pairs -/

theorem ampersand_not_mem_encodePair (pair : String × String) : '&' ∉ encodePair pair := by
  intro h
  rcases List.mem_append.1 h with hname | hvalue
  · exact (encodeField_free _ _ hname).1 rfl
  · rcases List.mem_cons.1 hvalue with hequals | hvalue
    · exact absurd hequals (by decide)
    · exact (encodeField_free _ _ hvalue).1 rfl

/-- An encoded pair is cut at the equals sign between its fields, which is its first. -/
theorem decodePair_encodePair (pair : String × String) :
    decodePair (encodePair pair) = pair := by
  have hname : ∀ c ∈ encodeField pair.1.toList, decide (c ≠ '=') = true :=
    fun c hc => decide_eq_true (encodeField_free _ c hc).2
  have htake : (encodePair pair).takeWhile (· ≠ '=') = encodeField pair.1.toList := by
    rw [encodePair, List.takeWhile_append_of_pos hname]
    exact List.append_nil _
  have hdrop : (encodePair pair).dropWhile (· ≠ '=') = '=' :: encodeField pair.2.toList := by
    rw [encodePair, List.dropWhile_append_of_pos hname]
    rfl
  rw [decodePair, htake, hdrop, List.drop_succ_cons, List.drop_zero, decodeField_encodeField,
    decodeField_encodeField, String.ofList_toList, String.ofList_toList]

theorem decodePairs_encodePair (pair : String × String) :
    decodePairs (encodePair pair) = [pair] := by
  have hsome : (encodePair pair).isEmpty = false :=
    List.isEmpty_eq_false_iff.2 (List.append_ne_nil_of_right_ne_nil _ (List.cons_ne_nil _ _))
  rw [decodePairs, pieces_of_not_mem (ampersand_not_mem_encodePair pair),
    List.filter_cons_of_pos (by rw [hsome]; rfl), List.filter_nil, List.map_cons,
    decodePair_encodePair, List.map_nil]

/-- Pairs are read from their own query. -/
theorem decodePairs_encodePairs (pairs : List (String × String)) :
    decodePairs (encodePairs pairs) = pairs := by
  induction pairs with
  | nil => rfl
  | cons pair rest ih =>
    cases rest with
    | nil => exact decodePairs_encodePair pair
    | cons next others =>
      rw [encodePairs, decodePairs_append, decodePairs_encodePair, ih, List.singleton_append]
      exact List.cons_ne_nil next others

end Form

namespace Url

/-- The text of the query of an address, empty if there is none. -/
def queryText (url : Url) : List Char := (url.query.getD "").toList

/-- The pairs that the query of an address stands for. -/
def queryPairs (url : Url) : List (String × String) := Form.decodePairs url.queryText

theorem queryPairs_of_none {url : Url} (h : url.query = none) : url.queryPairs = [] := by
  rw [queryPairs, queryText, h]
  rfl

theorem queryPairs_of_some {url : Url} {query : String} (h : url.query = some query) :
    url.queryPairs = Form.decodePairs query.toList := by
  rw [queryPairs, queryText, h]
  rfl

/-- A query that is taken away when it is empty has the same text. -/
theorem toList_getD_ofList (text : List Char) :
    ((if text.isEmpty then none else some (String.ofList text)).getD "").toList = text := by
  split
  case isTrue hnone => exact (List.isEmpty_iff.1 hnone).symm
  case isFalse => exact String.toList_ofList

theorem queryText_addPairs (url : Url) (pairs : List (String × String)) :
    (url.addPairs pairs).queryText =
      if url.queryText.isEmpty then Form.encodePairs pairs
      else if (Form.encodePairs pairs).isEmpty then url.queryText
      else url.queryText ++ '&' :: Form.encodePairs pairs :=
  toList_getD_ofList _

/-- Pairs that are added to a query stand behind the ones that were there. -/
theorem queryPairs_addPairs (url : Url) (pairs : List (String × String)) :
    (url.addPairs pairs).queryPairs = url.queryPairs ++ pairs := by
  rw [queryPairs, queryText_addPairs, queryPairs]
  split
  case isTrue hown =>
    rw [List.isEmpty_iff.1 hown, Form.decodePairs_encodePairs]
    rfl
  case isFalse =>
    split
    case isTrue hadded =>
      have hpairs : pairs = [] := by
        rw [← Form.decodePairs_encodePairs pairs, List.isEmpty_iff.1 hadded]
        rfl
      rw [hpairs, List.append_nil]
    case isFalse => rw [Form.decodePairs_append, Form.decodePairs_encodePairs]

/-- An address to which pairs are added has a query. -/
theorem exists_query_addPairs (url : Url) {pairs : List (String × String)} (h : pairs ≠ []) :
    ∃ query, (url.addPairs pairs).query = some query := by
  cases hquery : (url.addPairs pairs).query with
  | some query => exact ⟨query, rfl⟩
  | none =>
    have hpairs := queryPairs_addPairs url pairs
    rw [queryPairs_of_none hquery] at hpairs
    exact absurd (List.append_eq_nil_iff.1 hpairs.symm).2 h

end Url

end CatalogBridge
