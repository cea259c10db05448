import CatalogBridge.Json.Shape
import CatalogBridge.Proofs.Cluster.Table
import CatalogBridge.Proofs.Json.RoundTrip
import Mathlib.Data.List.Forall2
import Mathlib.Data.List.Induction
import Mathlib.Data.List.Nodup

/-!
# What shapes accept

Each shape accepts documents of one form, and what it reads is said by that form.

* `mapM_eq_some_iff` and the lemmas behind it say this of texts, lists, options and
  tables.
* `Table.ofEntries` is the table of the entries that a document has, in any order and
  with repeated names: its names ascend and are those of the entries.  A table that is
  written in its own order is read as it is (`Table.ofEntries_eq_self`).
-/

namespace CatalogBridge

namespace Table
variable {α : Type}

/-- The table of entries, of which the last one of a name counts. -/
def ofEntries (entries : List (String × α)) : Table α :=
  entries.foldl (fun table entry => put entry.1 entry.2 table) []

theorem ofEntries_concat (entries : List (String × α)) (entry : String × α) :
    ofEntries (entries ++ [entry]) = put entry.1 entry.2 (ofEntries entries) :=
  List.foldl_concat ..

theorem ascending_ofEntries (entries : List (String × α)) : Ascending (ofEntries entries) := by
  induction entries using List.reverseRecOn with
  | nil => exact ascending_nil
  | append_singleton entries entry ih =>
    rw [ofEntries_concat]
    exact ascending_put ih entry.1 entry.2

theorem mem_names_ofEntries {name : String} {entries : List (String × α)} :
    name ∈ names (ofEntries entries) ↔ name ∈ names entries := by
  induction entries using List.reverseRecOn with
  | nil => rfl
  | append_singleton entries entry ih =>
    rw [ofEntries_concat, mem_names_put, ih, names, names, List.map_append, List.mem_append,
      List.map_singleton, List.mem_singleton, or_comm]

theorem put_of_lt {name : String} {table : Table α} (h : ∀ entry ∈ table, entry.1 < name)
    (object : α) : put name object table = table ++ [(name, object)] := by
  induction table with
  | nil => rfl
  | cons entry rest ih =>
    obtain ⟨key, kept⟩ := entry
    have hkey : key < name := h (key, kept) List.mem_cons_self
    rw [put, if_neg (lt_asymm hkey), if_neg (ne_of_gt hkey),
      ih fun other hother => h other (List.mem_cons_of_mem _ hother)]
    rfl

/-- A table is the table of its own entries. -/
theorem ofEntries_eq_self {table : Table α} (h : Ascending table) : ofEntries table = table := by
  induction table using List.reverseRecOn with
  | nil => rfl
  | append_singleton entries entry ih =>
    obtain ⟨hentries, -, hlast⟩ := List.pairwise_append.1 h
    rw [ofEntries_concat, ih hentries]
    exact put_of_lt (fun other hother => hlast other hother entry List.mem_cons_self) entry.2

end Table

namespace Json
variable {α β : Type}

theorem exists_forall₂_iff {related : α → β → Prop} {items : List α} :
    (∃ values, List.Forall₂ related items values)
      ↔ ∀ item ∈ items, ∃ value, related item value := by
  induction items with
  | nil => exact ⟨fun _ item hitem => absurd hitem List.not_mem_nil, fun _ => ⟨[], .nil⟩⟩
  | cons item rest ih =>
    rw [List.forall_mem_cons, ← ih]
    constructor
    · rintro ⟨values, hvalues⟩
      cases hvalues with
      | cons hvalue hrest => exact ⟨⟨_, hvalue⟩, _, hrest⟩
    · rintro ⟨⟨value, hvalue⟩, values, hrest⟩
      exact ⟨value :: values, .cons hvalue hrest⟩

theorem mapM_eq_some_iff {f : α → Option β} {items : List α} {values : List β} :
    items.mapM f = some values
      ↔ List.Forall₂ (fun item value => f item = some value) items values := by
  induction items generalizing values with
  | nil =>
    rw [List.mapM_nil, List.forall₂_nil_left_iff]
    exact ⟨fun h => (Option.some.inj h).symm, fun h => congrArg some h.symm⟩
  | cons item rest ih =>
    rw [List.mapM_cons, List.forall₂_cons_left_iff]
    simp only [Option.bind_eq_bind, Option.bind_eq_some_iff, Option.pure_def, Option.some.injEq,
      ih]
    constructor
    · rintro ⟨value, hvalue, others, hothers, rfl⟩
      exact ⟨value, others, hvalue, hothers, rfl⟩
    · rintro ⟨value, others, hvalue, hothers, rfl⟩
      exact ⟨value, hvalue, others, hothers, rfl⟩

theorem asText_eq_some_iff {document : Json} {value : String} :
    asText document = some value ↔ document = .str value := by
  cases document <;> simp [asText, str]

theorem asList_eq_some_iff {shape : Shape α} {document : Json} {values : List α} :
    asList shape document = some values ↔ ∃ items, document = .array items ∧
      List.Forall₂ (fun item value => shape item = some value) items values := by
  cases document <;> simp [asList, mapM_eq_some_iff]

/-- A list of texts is written as just these texts. -/
theorem asList_asText_eq_some_iff {document : Json} {values : List String} :
    asList asText document = some values ↔ document = .array (values.map .str) := by
  have hitems : ∀ items : List Json,
      List.Forall₂ (fun item value => asText item = some value) items values
        ↔ items = values.map .str := by
    intro items
    simp only [asText_eq_some_iff]
    rw [← List.forall₂_map_right_iff, List.forall₂_eq_eq_eq]
  simp only [asList_eq_some_iff, hitems, exists_eq_right]

theorem asOption_eq_some_iff {shape : Shape α} {document : Json} {value : Option α} :
    asOption shape document = some value ↔
      document = .null ∧ value = none ∨
        document ≠ .null ∧ ∃ inner, shape document = some inner ∧ value = some inner := by
  cases document with
  | null => simp [asOption, eq_comm]
  | _ => simp [asOption, Option.map_eq_some_iff, @eq_comm _ value]

theorem insertSorted_eq_put (name : String) (value : α) (table : List (String × α)) :
    insertSorted name value table = Table.put name value table := by
  induction table with
  | nil => rfl
  | cons entry rest ih => rw [insertSorted, Table.put, ih]

/-- A field of a table and the entry that it is read as. -/
def IsEntry (shape : Shape α) (field : Option String × Json) (entry : String × α) : Prop :=
  field.1 = some entry.1 ∧ shape field.2 = some entry.2

theorem map_fst_of_entries {shape : Shape α} {fields : List (Option String × Json)}
    {entries : List (String × α)} (h : List.Forall₂ (IsEntry shape) fields entries) :
    fields.map Prod.fst = (Table.names entries).map some := by
  induction h with
  | nil => rfl
  | cons hentry _ ih => rw [List.map_cons, hentry.1, ih, Table.names, Table.names]; rfl

/-- The entries have the names of the fields. -/
theorem mem_names_of_entries {shape : Shape α} {fields : List (Option String × Json)}
    {entries : List (String × α)} (h : List.Forall₂ (IsEntry shape) fields entries)
    {name : String} : name ∈ Table.names entries ↔ ∃ value, (some name, value) ∈ fields := by
  have hsome : name ∈ Table.names entries ↔ some name ∈ fields.map Prod.fst := by
    rw [map_fst_of_entries h, List.mem_map_of_injective fun _ _ => Option.some.inj]
  simp only [hsome, List.mem_map, Prod.exists, exists_and_right, exists_eq_right]

theorem foldlM_insertSorted_iff {shape : Shape α} {fields : List (Option String × Json)}
    {start table : List (String × α)} :
    (fields.foldlM (fun table field => do
        return insertSorted (← field.1) (← shape field.2) table) start) = some table
      ↔ ∃ entries, List.Forall₂ (IsEntry shape) fields entries ∧
          table = entries.foldl (fun table entry => Table.put entry.1 entry.2 table) start := by
  induction fields generalizing start with
  | nil =>
    simp only [List.foldlM_nil, List.forall₂_nil_left_iff, exists_eq_left, List.foldl_nil]
    exact ⟨fun h => (Option.some.inj h).symm, fun h => congrArg some h.symm⟩
  | cons field rest ih =>
    rw [List.foldlM_cons, Option.bind_eq_bind, Option.bind_eq_some_iff]
    constructor
    · rintro ⟨next, hnext, hrest⟩
      simp only [Option.bind_eq_bind, Option.bind_eq_some_iff] at hnext
      obtain ⟨name, hname, value, hvalue, hput⟩ := hnext
      obtain ⟨entries, hentries, rfl⟩ := ih.1 hrest
      refine ⟨(name, value) :: entries, .cons ⟨hname, hvalue⟩ hentries, ?_⟩
      rw [List.foldl_cons, ← insertSorted_eq_put, ← Option.some.inj hput]
    · rintro ⟨entries, hentries, rfl⟩
      cases hentries with
      | cons hentry hrest =>
        refine ⟨_, ?_, ih.2 ⟨_, hrest, rfl⟩⟩
        rw [hentry.1, hentry.2]
        exact congrArg some (insertSorted_eq_put _ _ _)

/-- What a table is read from. -/
theorem asTable_eq_some_iff {shape : Shape α} {document : Json} {table : List (String × α)} :
    asTable shape document = some table ↔ ∃ fields entries, document = .object fields ∧
      List.Forall₂ (IsEntry shape) fields entries ∧ table = Table.ofEntries entries := by
  cases document with
  | object fields =>
    rw [asTable, foldlM_insertSorted_iff]
    constructor
    · rintro ⟨entries, hentries, htable⟩
      exact ⟨fields, entries, rfl, hentries, htable⟩
    · rintro ⟨others, entries, hsame, hentries, htable⟩
      cases hsame
      exact ⟨entries, hentries, htable⟩
  | _ => simp [asTable]

/-! ## What is written is read -/

theorem asText_str (value : String) : asText (.str value) = some value := rfl

theorem asOption_str (value : String) : asOption asText (.str value) = some (some value) := rfl

/-- A number within the bounds is read from its own document. -/
theorem asInt32_int {value : Int} (h : -2147483648 ≤ value ∧ value ≤ 2147483647) :
    asInt32 (.int value) = some value := by
  have hsign : (decide (value < 0) && value.natAbs == 0) = false := by
    simp only [Bool.and_eq_false_iff, decide_eq_false_iff_not, beq_eq_false_iff_ne]
    omega
  have hvalue :
      (if decide (value < 0) = true then -(value.natAbs : Int) else value.natAbs) = value := by
    simp only [decide_eq_true_eq]
    split <;> omega
  simp only [asInt32, asWhole, int, hsign, hvalue]
  simp [h]

theorem bounds_of_asInt32 {document : Json} {value : Int} (h : asInt32 document = some value) :
    -2147483648 ≤ value ∧ value ≤ 2147483647 := by
  unfold asInt32 asWhole at h
  split at h
  · split at h
    · cases h
    · rename_i negative magnitude _
      dsimp only at h
      generalize (if negative = true then -(magnitude : Int) else magnitude) = found at h
      split at h
      case isTrue hbounds =>
        rw [← Option.some.inj h]
        simpa using hbounds
      case isFalse => cases h
  · cases h

theorem asList_map {shape : Shape α} {write : α → Json} {values : List α}
    (h : ∀ value ∈ values, shape (write value) = some value) :
    asList shape (.array (values.map write)) = some values := by
  refine asList_eq_some_iff.2 ⟨_, rfl, ?_⟩
  rw [List.forall₂_map_left_iff, List.forall₂_same]
  exact h

theorem forall_of_asList {shape : Shape α} {good : α → Prop}
    (hshape : ∀ document value, shape document = some value → good value) {document : Json}
    {values : List α} (h : asList shape document = some values) : ∀ value ∈ values, good value := by
  obtain ⟨items, -, hitems⟩ := asList_eq_some_iff.1 h
  clear h
  induction hitems with
  | nil => simp
  | cons hitem _ ih => exact List.forall_mem_cons.2 ⟨hshape _ _ hitem, ih⟩

theorem ascending_of_asTable {shape : Shape α} {document : Json} {table : List (String × α)}
    (h : asTable shape document = some table) : Table.Ascending table := by
  obtain ⟨fields, entries, -, -, rfl⟩ := asTable_eq_some_iff.1 h
  exact Table.ascending_ofEntries entries

theorem asTable_record {shape : Shape α} {write : α → Json} {table : List (String × α)}
    (hascending : Table.Ascending table)
    (h : ∀ entry ∈ table, shape (write entry.2) = some entry.2) :
    asTable shape (.record (table.map fun entry => (entry.1, write entry.2))) = some table := by
  refine asTable_eq_some_iff.2 ⟨_, table, rfl, ?_, (Table.ofEntries_eq_self hascending).symm⟩
  rw [List.map_map, List.forall₂_map_left_iff, List.forall₂_same]
  exact fun entry hentry => ⟨rfl, h entry hentry⟩

theorem asCells_record (names : List String) {fields : List (String × Json)}
    (h : (fields.map Prod.fst).Nodup) :
    asCells names (.record fields)
      = some ⟨false, names.map fun name => Table.get? name fields⟩ := by
  have hnamed : (named fields).all (·.1.isSome) = true := by
    simp [named]
  have honce :
      names.all (fun name => ((named fields).filter (·.1 = some name)).length ≤ 1) = true := by
    refine List.all_eq_true.2 fun name _ => ?_
    have hcount : (fields.map Prod.fst).count name ≤ 1 := List.nodup_iff_count_le_one.1 h name
    rw [List.count, List.countP_map, List.countP_eq_length_filter] at hcount
    simpa [named, List.filter_map, Function.comp_def, beq_eq_decide] using hcount
  have hfound : ∀ name,
      ((named fields).find? (·.1 = some name)).map (·.2) = Table.get? name fields := by
    intro name
    simp [named, Table.get?, List.find?_map, Function.comp_def]
  rw [record_eq, asCells, hnamed, honce]
  simp [hfound]

/-- A value that a record must have is read from some document. -/
theorem exists_of_get_required {record : Cells} {position : Nat} {shape : Shape α} {value : α}
    (h : record.get position shape .required = some value) :
    ∃ document, shape document = some value := by
  unfold Cells.get at h
  split at h
  · exact ⟨_, h⟩
  all_goals simp_all

/-- A value that a record may lack is read from some document, or it is the one in its place. -/
theorem get_orElse_cases {record : Cells} {position : Nat} {shape : Shape α} {value other : α}
    (h : record.get position shape (.orElse other) = some value) :
    (∃ document, shape document = some value) ∨ value = other := by
  unfold Cells.get at h
  split at h
  · exact .inl ⟨_, h⟩
  all_goals simp_all

end Json
end CatalogBridge
