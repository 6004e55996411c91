/-
HostedModules.Proofs.Wire.Order — the entries of a record are written in one
order, whatever order they came in.

* `keyBefore_asymm`, `keyBefore_total`, `keyBefore_cotrans` — the order of keys
  is total
* `insertEntry_comm` — entries with different keys may be inserted in either
  order
* `sortEntries_middle` — an entry may be taken from anywhere and inserted last
* `sortEntries_map`, `sortEntries_perm` — sorting looks at the keys alone, and
  loses nothing
-/
import HostedModules.Wire.Encode

namespace HostedModules
namespace Wire

/-! ## Keys -/

theorem utf8_injective {s t : String} (h : utf8 s = utf8 t) : s = t := by
  have := congrArg text? h
  rw [text?_utf8, text?_utf8] at this
  exact Option.some.inj this

theorem keyBefore_cons {a b : UInt8} {as bs : List UInt8} :
    keyBefore (a :: as) (b :: bs) = true ↔ a.toNat < b.toNat ∨
      a.toNat = b.toNat ∧ keyBefore as bs = true := by
  simp [keyBefore, UInt8.lt_iff_toNat_lt, UInt8.toNat_inj]

theorem keyBefore_asymm :
    ∀ {a b : List UInt8}, keyBefore a b = true → keyBefore b a = false
  | [], _, h => nomatch h
  | _ :: _, [], _ => rfl
  | a :: as, b :: bs, h => by
      rw [Bool.eq_false_iff]
      intro hback
      rcases keyBefore_cons.1 h with hlt | ⟨heq, h⟩ <;>
        rcases keyBefore_cons.1 hback with hlt' | ⟨heq', hback⟩
      · omega
      · omega
      · omega
      · rw [keyBefore_asymm h] at hback
        exact nomatch hback

theorem keyBefore_total :
    ∀ {a b : List UInt8}, a ≠ b → keyBefore a b = true ∨ keyBefore b a = true
  | [], [], h => absurd rfl h
  | [], _ :: _, _ => Or.inr rfl
  | _ :: _, [], _ => Or.inl rfl
  | a :: as, b :: bs, h => by
      rw [keyBefore_cons, keyBefore_cons]
      by_cases heq : a = b
      · subst heq
        have hne : as ≠ bs := fun hsame => h (by rw [hsame])
        rcases keyBefore_total hne with hlt | hlt
        · exact Or.inl (Or.inr ⟨rfl, hlt⟩)
        · exact Or.inr (Or.inr ⟨rfl, hlt⟩)
      · have hne : a.toNat ≠ b.toNat := fun hsame =>
          heq (UInt8.toNat_inj.1 hsame)
        omega

/-- Whatever goes before a key also goes before any third key, or else the third
goes before that one. -/
theorem keyBefore_cotrans :
    ∀ {a b : List UInt8} (c : List UInt8), keyBefore a b = true →
    keyBefore c b = true ∨ keyBefore a c = true
  | [], _, _, h => nomatch h
  | _ :: _, _, [], _ => Or.inr rfl
  | _ :: _, [], _ :: _, _ => Or.inl rfl
  | a :: as, b :: bs, c :: cs, h => by
      rw [keyBefore_cons, keyBefore_cons]
      rcases keyBefore_cons.1 h with hlt | ⟨heq, hrest⟩
      · omega
      · rcases Nat.lt_trichotomy c.toNat b.toNat with hlt | hsame | hlt
        · exact Or.inl (Or.inl hlt)
        · rcases keyBefore_cotrans cs hrest with hc | ha
          · exact Or.inl (Or.inr ⟨hsame, hc⟩)
          · exact Or.inr (Or.inr ⟨heq.trans hsame.symm, ha⟩)
        · exact Or.inr (Or.inl (by omega))

/-! ## Insertion -/

section Entries

variable {α β : Type} {key other : String}

theorem insertEntry_cons_of_before {k : String} {item x : α}
    {rest : List (String × α)} (h : keyBefore (utf8 k) (utf8 key) = true) :
    insertEntry key item ((k, x) :: rest) =
      (k, x) :: insertEntry key item rest := if_pos h

theorem insertEntry_cons_of_not_before {k : String} {item x : α}
    {rest : List (String × α)} (h : keyBefore (utf8 k) (utf8 key) = false) :
    insertEntry key item ((k, x) :: rest) = (key, item) :: (k, x) :: rest :=
  if_neg (by rw [h]; exact Bool.false_ne_true)

theorem insertEntry_comm_of_before
    (h : keyBefore (utf8 key) (utf8 other) = true) (x y : α)
    (entries : List (String × α)) :
    insertEntry key x (insertEntry other y entries) =
      insertEntry other y (insertEntry key x entries) := by
  have hback := keyBefore_asymm h
  induction entries with
  | nil =>
      show insertEntry key x [(other, y)] = insertEntry other y [(key, x)]
      rw [insertEntry_cons_of_not_before hback, insertEntry_cons_of_before h]
      rfl
  | cons entry rest ih =>
      obtain ⟨k, z⟩ := entry
      cases hkey : keyBefore (utf8 k) (utf8 key) with
      | true =>
          have hother : keyBefore (utf8 k) (utf8 other) = true := by
            rcases keyBefore_cotrans (utf8 k) h with hlt | hlt
            · exact hlt
            · rw [keyBefore_asymm hkey] at hlt
              exact nomatch hlt
          rw [insertEntry_cons_of_before hother,
            insertEntry_cons_of_before hkey, insertEntry_cons_of_before hkey,
            insertEntry_cons_of_before hother, ih]
      | false =>
          rw [insertEntry_cons_of_not_before hkey, insertEntry_cons_of_before h]
          cases hother : keyBefore (utf8 k) (utf8 other) with
          | true =>
              rw [insertEntry_cons_of_before hother,
                insertEntry_cons_of_not_before hkey]
          | false =>
              rw [insertEntry_cons_of_not_before hother,
                insertEntry_cons_of_not_before hback]

/-- Entries with different keys may be inserted in either order. -/
theorem insertEntry_comm (hne : key ≠ other) (x y : α)
    (entries : List (String × α)) :
    insertEntry key x (insertEntry other y entries) =
      insertEntry other y (insertEntry key x entries) := by
  rcases keyBefore_total fun h => hne (utf8_injective h) with h | h
  · exact insertEntry_comm_of_before h x y entries
  · exact (insertEntry_comm_of_before h y x entries).symm

/-- An entry is inserted somewhere, and all others stay as they are. -/
theorem insertEntry_split (key : String) (item : α)
    (entries : List (String × α)) :
    ∃ before after, entries = before ++ after ∧
      insertEntry key item entries = before ++ (key, item) :: after := by
  induction entries with
  | nil => exact ⟨[], [], rfl, rfl⟩
  | cons entry rest ih =>
      obtain ⟨k, x⟩ := entry
      cases h : keyBefore (utf8 k) (utf8 key) with
      | true =>
          obtain ⟨before, after, hsplit, hinsert⟩ := ih
          refine ⟨(k, x) :: before, after, by rw [hsplit]; rfl, ?_⟩
          rw [insertEntry_cons_of_before h, hinsert]
          rfl
      | false =>
          exact ⟨[], (k, x) :: rest, rfl, insertEntry_cons_of_not_before h⟩

theorem insertEntry_perm (key : String) (item : α)
    (entries : List (String × α)) :
    (insertEntry key item entries).Perm ((key, item) :: entries) := by
  obtain ⟨before, after, hsplit, hinsert⟩ := insertEntry_split key item entries
  rw [hinsert, hsplit]
  exact List.perm_middle

theorem insertEntry_map (f : α → β) (key : String) (item : α)
    (entries : List (String × α)) :
    insertEntry key (f item) (entries.map (Prod.map id f)) =
      (insertEntry key item entries).map (Prod.map id f) := by
  induction entries with
  | nil => rfl
  | cons entry rest ih =>
      obtain ⟨k, x⟩ := entry
      rw [List.map_cons, Prod.map_apply, id]
      cases h : keyBefore (utf8 k) (utf8 key) with
      | true =>
          rw [insertEntry_cons_of_before h, insertEntry_cons_of_before h, ih]
          rfl
      | false =>
          rw [insertEntry_cons_of_not_before h,
            insertEntry_cons_of_not_before h]
          rfl

/-! ## Sorting -/

theorem sortEntries_perm (entries : List (String × α)) :
    (sortEntries entries).Perm entries := by
  induction entries with
  | nil => exact List.Perm.refl _
  | cons entry rest ih => exact (insertEntry_perm _ _ _).trans (ih.cons _)

/-- Sorting looks at the keys alone. -/
theorem sortEntries_map (f : α → β) (entries : List (String × α)) :
    sortEntries (entries.map (Prod.map id f)) =
      (sortEntries entries).map (Prod.map id f) := by
  induction entries with
  | nil => rfl
  | cons entry rest ih =>
      show insertEntry entry.1 (f entry.2)
        (sortEntries (rest.map (Prod.map id f))) = _
      rw [ih, insertEntry_map]
      rfl

/-- An entry may be taken from anywhere and inserted last, if its key does not
occur before it. -/
theorem sortEntries_middle {item : α} {before after : List (String × α)}
    (h : key ∉ before.map Prod.fst) :
    sortEntries (before ++ (key, item) :: after) =
      insertEntry key item (sortEntries (before ++ after)) := by
  induction before with
  | nil => rfl
  | cons entry rest ih =>
      have hne : entry.1 ≠ key := fun heq =>
        h (by rw [← heq]; exact List.mem_cons_self)
      have hrest : key ∉ rest.map Prod.fst := fun hmem =>
        h (List.mem_cons_of_mem _ hmem)
      show insertEntry entry.1 entry.2
        (sortEntries (rest ++ (key, item) :: after)) = _
      rw [ih hrest, insertEntry_comm hne]
      rfl

end Entries

end Wire
end HostedModules
