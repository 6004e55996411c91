/-
HostedModules.Proofs.Value.Members — sets of loosely typed values.

Of several values that are one member, a set keeps the first.  Among texts, one
member is one text.

* `Value.sameMember_text`, `Value.hasMember_text` — texts as members
* `Value.Collects` — a set of the values met so far
* `Value.Collects.add` — one value more
* `Value.distinct_collects`, `Value.distinct_refused` — the set of a list of
  values, and when there is none
* `Value.Collects.texts` — the set of a list of texts
-/
import HostedModules.Proofs.Value.Order
import HostedModules.Value.Access

namespace HostedModules
namespace Value

/-! ## Members -/

theorem sameMember_self {v : Value} (h : v.settable = true) :
    sameMember v v = true := by
  cases v with
  | bool b =>
      simp [sameMember, equal, sameQuantity, quantity?, Quantity.equal_ofInt]
  | int n =>
      simp [sameMember, equal, sameQuantity, quantity?, Quantity.equal_ofInt]
  | double x =>
      -- an undefined number equals nothing, and is one member with any other
      cases hreading : x.reading <;>
        simp [sameMember, equal, sameQuantity, quantity?, Quantity.equal, hreading]
  | list items => cases h
  | record fields => cases h
  | _ => simp [sameMember, equal]

/-- Nothing but a text is the same member as that text. -/
theorem sameMember_text {s : String} {w : Value} :
    sameMember (.text s) w = true ↔ w = .text s := by
  cases w with
  | text t => simpa [sameMember, equal] using eq_comm
  | _ => simp [sameMember, equal, sameQuantity, quantity?]

/-- A set has a text as a member exactly if the text stands in it. -/
theorem hasMember_text {members : List Value} {s : String} :
    hasMember members (.text s) = true ↔ .text s ∈ members := by
  simp [hasMember, sameMember_text]

theorem hasMember_append {members more : List Value} {v : Value} :
    hasMember (members ++ more) v = true ↔ hasMember members v = true ∨
      hasMember more v = true := by
  simp [hasMember]

theorem hasMember_addMember {members : List Value} {v w : Value}
    (h : hasMember members w = true) :
    hasMember (addMember members v) w = true := by
  unfold addMember
  split
  · exact h
  · exact hasMember_append.2 (.inl h)

theorem hasMember_addMember_self {members : List Value} {v : Value}
    (h : v.settable = true) :
    hasMember (addMember members v) v = true := by
  unfold addMember
  split
  · next hhas => exact hhas
  · exact hasMember_append.2 (.inr (by simp [hasMember, sameMember_self h]))

theorem mem_addMember {members : List Value} {v w : Value}
    (h : w ∈ addMember members v) : w ∈ members ∨ w = v := by
  unfold addMember at h
  split at h
  · exact .inl h
  · simpa using h

/-- No two values of a set are one member, and so it stays with one value
more. -/
theorem pairwise_addMember {members : List Value}
    (h : members.Pairwise fun v w => sameMember w v = false) (v : Value) :
    (addMember members v).Pairwise fun v w => sameMember w v = false := by
  unfold addMember
  split
  · exact h
  · next hnew =>
      have hnone : ∀ w ∈ members, sameMember v w = false := by
        simpa [hasMember] using hnew
      simp only [List.pairwise_append, List.pairwise_singleton,
        List.mem_singleton, true_and]
      refine ⟨h, ?_⟩
      intro w hw u hu
      rw [hu]
      exact hnone w hw

/-! ## Sets -/

/-- A set of the items: every item is a member, every member is one of the
items, and no two are one member. -/
structure Collects (items members : List Value) : Prop where
  all : ∀ v ∈ items, hasMember members v = true
  only : ∀ v ∈ members, v ∈ items
  distinct : members.Pairwise fun v w => sameMember w v = false

/-- One more item. -/
theorem Collects.add {items members : List Value} (h : Collects items members)
    {v : Value} (hsettable : v.settable = true) :
    Collects (items ++ [v]) (addMember members v) where
  all w hw := by
    rcases List.mem_append.1 hw with hw | hw
    · exact hasMember_addMember (h.all w hw)
    · obtain rfl := List.mem_singleton.1 hw
      exact hasMember_addMember_self hsettable
  only w hw := by
    rcases mem_addMember hw with hw | rfl
    · exact List.mem_append_left _ (h.only w hw)
    · simp
  distinct := pairwise_addMember h.distinct v

/-- The scan keeps a set of what it has met. -/
theorem distinctFrom_collects :
    ∀ {items seen members : List Value}, Collects seen members →
    (∀ v ∈ items, v.settable = true) →
    ∃ found, distinctFrom members items = .ok found ∧
      Collects (seen ++ items) found
  | [], seen, members, h, _ => ⟨members, rfl, by simpa using h⟩
  | v :: rest, seen, members, h, hsettable => by
      rw [List.forall_mem_cons] at hsettable
      obtain ⟨found, hfound, hcollects⟩ :=
        distinctFrom_collects (h.add hsettable.1) hsettable.2
      refine ⟨found, ?_, by simpa using hcollects⟩
      rw [distinctFrom, if_pos hsettable.1, hfound]

/-- Values that may be members have a set. -/
theorem distinct_collects {items : List Value}
    (h : ∀ v ∈ items, v.settable = true) :
    ∃ members, distinct items = .ok members ∧ Collects items members := by
  have hnone : Collects [] [] := ⟨by simp, by simp, .nil⟩
  exact distinctFrom_collects hnone h

/-- There is no set if one of the values is a list or a record. -/
theorem distinct_refused {items : List Value}
    (h : ¬ ∀ v ∈ items, v.settable = true) :
    distinct items = .error Failure.wrongType := by
  unfold distinct
  generalize [] = members
  induction items generalizing members with
  | nil => simp at h
  | cons v rest ih =>
      rw [distinctFrom]
      split
      · next hsettable => exact ih (by simpa [hsettable] using h) _
      · rfl

/-- The set of some texts has each of them, once, and nothing else. -/
theorem Collects.texts {names : List String} {members : List Value}
    (h : Collects (names.map .text) members) :
    members.Nodup ∧ ∀ v, v ∈ members ↔ ∃ name ∈ names, v = .text name := by
  have hname : ∀ v ∈ members, ∃ name ∈ names, v = .text name := by
    simpa [eq_comm] using h.only
  constructor
  · refine h.distinct.imp_of_mem ?_
    rintro v w hv - hdistinct rfl
    obtain ⟨name, -, rfl⟩ := hname v hv
    simp [sameMember_text.2] at hdistinct
  · refine fun v => ⟨hname v, ?_⟩
    rintro ⟨name, hmem, rfl⟩
    exact hasMember_text.1 (h.all _ (List.mem_map_of_mem hmem))

end Value
end HostedModules
