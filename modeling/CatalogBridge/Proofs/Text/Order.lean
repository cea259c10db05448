import CatalogBridge.Text.Utf8

/-!
# The order of texts and of their octets

Texts are ordered character by character, and so are their octets: `encode_lt` says that
the octets of a smaller text are smaller.  It rests on `encodeChar_append_lt`, which
finds the first octet in which two characters differ: the leading one if they have
different numbers of octets, and otherwise the first of the digits in base 64 that the
octets carry.
-/

namespace CatalogBridge.Utf8

theorem cons_lt_of_lt {m n : Nat} (hlt : m < n) (hn : n < 256) (front back : List UInt8) :
    UInt8.ofNat m :: front < UInt8.ofNat n :: back := by
  refine List.cons_lt_cons_iff.2 (.inl ?_)
  rw [UInt8.lt_iff_toNat_lt, toNat_ofNat hn, toNat_ofNat (Nat.lt_trans hlt hn)]
  exact hlt

theorem cons_lt_of_le {m n : Nat} (hle : m ≤ n) (hn : n < 256) {front back : List UInt8}
    (hrest : m = n → front < back) : UInt8.ofNat m :: front < UInt8.ofNat n :: back := by
  rcases Nat.lt_or_eq_of_le hle with hlt | heq
  · exact cons_lt_of_lt hlt hn front back
  · rw [heq]
    exact List.cons_lt_cons_iff.2 (.inr ⟨rfl, hrest heq⟩)

/-- The octets of a smaller character are smaller, whatever follows them. -/
theorem encodeChar_append_lt {c d : Char} (h : c < d) (front back : List UInt8) :
    encodeChar c ++ front < encodeChar d ++ back := by
  have hlt : c.toNat < d.toNat := h
  have hbound : d.toNat < 0x110000 := by
    rcases d.valid with hlow | ⟨_, hhigh⟩
    · exact Nat.lt_trans hlow (by decide)
    · exact hhigh
  unfold encodeChar
  generalize c.toNat = p at hlt
  generalize d.toNat = q at hlt hbound
  dsimp only
  -- The cases are how many octets the greater one has; the smaller one never has more.
  by_cases hone : q < 0x80
  · rw [if_pos (show p < 0x80 by omega), if_pos hone]
    exact cons_lt_of_lt hlt (by omega) _ _
  rw [if_neg hone]
  by_cases htwo : q < 0x800
  · rw [if_pos htwo]
    split
    case isTrue => exact cons_lt_of_lt (by omega) (by omega) _ _
    case isFalse =>
      rw [if_pos (show p < 0x800 by omega)]
      exact cons_lt_of_le (by omega) (by omega) fun _ => cons_lt_of_lt (by omega) (by omega) _ _
  rw [if_neg htwo]
  by_cases hthree : q < 0x10000
  · rw [if_pos hthree]
    split
    case isTrue => exact cons_lt_of_lt (by omega) (by omega) _ _
    case isFalse =>
      split
      case isTrue => exact cons_lt_of_lt (by omega) (by omega) _ _
      case isFalse =>
        rw [if_pos (show p < 0x10000 by omega)]
        exact cons_lt_of_le (by omega) (by omega) fun _ =>
          cons_lt_of_le (by omega) (by omega) fun _ => cons_lt_of_lt (by omega) (by omega) _ _
  rw [if_neg hthree]
  split
  case isTrue => exact cons_lt_of_lt (by omega) (by omega) _ _
  case isFalse =>
    split
    case isTrue => exact cons_lt_of_lt (by omega) (by omega) _ _
    case isFalse =>
      split
      case isTrue => exact cons_lt_of_lt (by omega) (by omega) _ _
      case isFalse =>
        exact cons_lt_of_le (by omega) (by omega) fun _ =>
          cons_lt_of_le (by omega) (by omega) fun _ =>
            cons_lt_of_le (by omega) (by omega) fun _ => cons_lt_of_lt (by omega) (by omega) _ _

theorem encodeChar_ne_nil (c : Char) : encodeChar c ≠ [] := by
  unfold encodeChar
  dsimp only
  split
  · exact List.cons_ne_nil _ _
  · split
    · exact List.cons_ne_nil _ _
    · split <;> exact List.cons_ne_nil _ _

/-- The octets of a smaller text are smaller. -/
theorem encode_lt {text other : List Char} (h : text < other) : encode text < encode other := by
  induction text generalizing other with
  | nil =>
    cases other with
    | nil => exact absurd h (List.lt_irrefl [])
    | cons d rest =>
      have hsome : encode (d :: rest) ≠ [] := by
        rw [encode, List.flatMap_cons]
        exact List.append_ne_nil_of_left_ne_nil (encodeChar_ne_nil d) _
      obtain ⟨octet, octets, hoctets⟩ := List.exists_cons_of_ne_nil hsome
      rw [encode_nil, hoctets]
      exact List.nil_lt_cons octet octets
  | cons c rest ih =>
    cases other with
    | nil => exact absurd h (List.not_lt_nil _)
    | cons d others =>
      rw [encode, encode, List.flatMap_cons, List.flatMap_cons]
      rcases List.cons_lt_cons_iff.1 h with hlt | ⟨rfl, hrest⟩
      · exact encodeChar_append_lt hlt _ _
      · exact List.append_left_lt (ih hrest)

end CatalogBridge.Utf8
