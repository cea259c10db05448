import CatalogBridge.Kubernetes.Cluster
import Mathlib.Data.String.Basic

/-!
# Tables read by name

`Table.get?` is the view of a table that every statement about a cluster uses.

* `get?_put` and `get?_erase` say what the two operations do to the view. They
  hold of every list of entries, in order or not.
* `Ascending` is the order in which a table keeps its names. Both operations
  keep it, and in an ascending table the entries are exactly what the view
  shows (`mem_iff_get?`), so the view determines the table (`eq_of_get?_eq`).
-/

namespace CatalogBridge.Table

variable {α : Type}

/-! ## The view -/

@[simp] theorem get?_nil (name : String) : get? name ([] : Table α) = none := rfl

theorem get?_cons (name other : String) (kept : α) (rest : Table α) :
    get? name ((other, kept) :: rest) = if other = name then some kept else get? name rest := by
  by_cases h : other = name <;> simp [get?, h]

@[simp] theorem get?_put (name other : String) (object : α) (table : Table α) :
    get? other (put name object table)
      = if name = other then some object else get? other table := by
  induction table with
  | nil => rw [put, get?_cons]
  | cons entry rest ih =>
    obtain ⟨key, kept⟩ := entry
    rw [put]
    by_cases hlt : name < key
    · rw [if_pos hlt, get?_cons]
    · by_cases heq : name = key
      · subst heq
        rw [if_neg hlt, if_pos rfl, get?_cons, get?_cons]
        split <;> rfl
      · rw [if_neg hlt, if_neg heq, get?_cons, get?_cons, ih]
        by_cases hkey : key = other
        · rw [if_pos hkey, if_neg (fun hname => heq (hname.trans hkey.symm)), if_pos hkey]
        · rw [if_neg hkey, if_neg hkey]

@[simp] theorem get?_erase (name other : String) (table : Table α) :
    get? other (erase name table) = if name = other then none else get? other table := by
  induction table with
  | nil => simp [erase]
  | cons entry rest ih =>
    obtain ⟨key, kept⟩ := entry
    by_cases hkey : key = name
    · have hdrop : erase name ((key, kept) :: rest) = erase name rest := by
        simp [erase, hkey]
      rw [hdrop, ih, get?_cons]
      split_ifs with h1 h2
      · rfl
      · exact absurd (hkey.symm.trans h2) h1
      · rfl
    · have hkeep : erase name ((key, kept) :: rest) = (key, kept) :: erase name rest := by
        simp [erase, hkey]
      rw [hkeep, get?_cons, get?_cons, ih]
      split_ifs with h1 h2
      · exact absurd (h1.trans h2.symm) hkey
      · rfl
      · rfl
      · rfl

/-! ## The order of names -/

/-- The names ascend, so each occurs once. -/
def Ascending (table : Table α) : Prop := table.Pairwise fun first second => first.1 < second.1

theorem ascending_nil : Ascending ([] : Table α) := List.Pairwise.nil

theorem nodup {table : Table α} (h : Ascending table) : table.Nodup := by
  refine List.Pairwise.imp ?_ h
  intro first second hlt hsame
  rw [hsame] at hlt
  exact lt_irrefl second.1 hlt

theorem ascending_erase {table : Table α} (h : Ascending table) (name : String) :
    Ascending (erase name table) :=
  List.Pairwise.sublist List.filter_sublist h

theorem ascending_put {table : Table α} (h : Ascending table) (name : String) (object : α) :
    Ascending (put name object table) := by
  induction table with
  | nil => exact List.pairwise_singleton _ _
  | cons entry rest ih =>
    obtain ⟨key, kept⟩ := entry
    have hhead : ∀ entry ∈ rest, key < entry.1 := (List.pairwise_cons.1 h).1
    have htail : Ascending rest := (List.pairwise_cons.1 h).2
    rw [put]
    split_ifs with hlt heq
    · refine List.pairwise_cons.2 ⟨?_, h⟩
      intro entry hentry
      rcases List.mem_cons.1 hentry with rfl | hrest
      · exact hlt
      · exact lt_trans hlt (hhead entry hrest)
    · subst heq
      exact List.pairwise_cons.2 ⟨hhead, htail⟩
    · refine List.pairwise_cons.2 ⟨?_, ih htail⟩
      intro entry hentry
      have hname : entry.1 ∈ names (put name object rest) := List.mem_map.2 ⟨entry, hentry, rfl⟩
      rcases mem_names_put.1 hname with hput | hold
      · rw [hput]
        exact lt_of_le_of_ne (not_lt.1 hlt) (Ne.symm heq)
      · obtain ⟨other, hother, hsame⟩ := List.mem_map.1 hold
        rw [← hsame]
        exact hhead other hother

/-- An ascending table holds an entry exactly if reading the name gives it. -/
theorem mem_iff_get? {table : Table α} (h : Ascending table) {name : String} {object : α} :
    (name, object) ∈ table ↔ get? name table = some object := by
  induction table with
  | nil => simp
  | cons entry rest ih =>
    obtain ⟨key, kept⟩ := entry
    have hhead : ∀ entry ∈ rest, key < entry.1 := (List.pairwise_cons.1 h).1
    rw [get?_cons, List.mem_cons, ih (List.pairwise_cons.1 h).2]
    by_cases hkey : key = name
    · subst hkey
      have habsent : ¬ get? key rest = some object := by
        intro hfound
        have hmem := (ih (List.pairwise_cons.1 h).2).2 hfound
        exact lt_irrefl key (hhead _ hmem)
      simp [habsent, eq_comm]
    · rw [if_neg hkey]
      constructor
      · intro hmem
        rcases hmem with hsame | hrest
        · exact absurd (Prod.mk.inj hsame).1.symm hkey
        · exact hrest
      · exact Or.inr

/-- The names of the entries that a test accepts are those whose object it accepts. -/
theorem mem_names_filter_iff {table : Table α} (h : Ascending table) {name : String}
    {test : α → Bool} : name ∈ names (table.filter fun entry => test entry.2) ↔
      ∃ object, get? name table = some object ∧ test object = true := by
  simp only [names, List.mem_map, List.mem_filter]
  constructor
  · intro hnamed
    obtain ⟨⟨key, object⟩, ⟨hentry, htest⟩, rfl⟩ := hnamed
    exact ⟨object, (mem_iff_get? h).1 hentry, htest⟩
  · intro hstored
    obtain ⟨object, hget, htest⟩ := hstored
    exact ⟨(name, object), ⟨(mem_iff_get? h).2 hget, htest⟩, rfl⟩

/-- Two ascending tables that read alike are one table. -/
theorem eq_of_get?_eq {first second : Table α} (hfirst : Ascending first)
    (hsecond : Ascending second) (h : ∀ name, get? name first = get? name second) :
    first = second := by
  have hmem : ∀ entry, entry ∈ first ↔ entry ∈ second := by
    intro entry
    obtain ⟨name, object⟩ := entry
    rw [mem_iff_get? hfirst, mem_iff_get? hsecond, h]
  have hperm : first.Perm second :=
    (List.perm_ext_iff_of_nodup (nodup hfirst) (nodup hsecond)).2 hmem
  exact hperm.eq_of_pairwise (fun _ _ _ _ hab hba => absurd hba (lt_asymm hab)) hfirst hsecond

end CatalogBridge.Table
