/-
HostedModules.Proofs.Traffic.Selection — the default version of a split, without
the scan.

A split names versions in some order, each with a weight.  The scan goes through
them once, with the best version so far in hand; what it ends with can be said
of the split as a whole.

* `Traffic.wholeName?`, `Traffic.Leads` — the first version with all of the
  traffic, and the version of most traffic, ties going to the name that comes
  first
* `Traffic.Stuck` — a weight equal to the floor is met before any version has
  been chosen
* `Traffic.Chooses` — what a split amounts to
* `Traffic.Scanned` — what is known of the entries that the scan has passed
* `Traffic.default_version` — the scan ends with what the split amounts to, in
  whatever order it is written
-/
import HostedModules.Proofs.Value.Order
import HostedModules.Plumbing

namespace HostedModules
namespace Traffic

/-! ## Splits as a whole -/

variable {split others : List (String × Value)} {name current : String}
    {highest q : Quantity}

/-- All weights are numbers or truth values. -/
def Numeric (split : List (String × Value)) : Prop :=
  ∀ entry ∈ split, ∃ q, entry.2.quantity? = some q

/-- The version receives all of the traffic. -/
def Whole (entry : String × Value) : Prop := entry.2.quantity? = some whole

/-- The weight of the version is the one that every candidate is first compared
with. -/
def AtFloor (entry : String × Value) : Prop := entry.2.quantity? = some floor

/-- The weight of the version is greater than that. -/
def Above (entry : String × Value) : Prop :=
  ∃ q, entry.2.quantity? = some q ∧ floor.less q = true

/-- The first version that receives all of the traffic. -/
def wholeName? (split : List (String × Value)) : Option String :=
  (split.find? fun entry => entry.2.quantity? = some whole).map Prod.fst

/-- The version is named, with a weight above the floor; none has a greater
weight, and none with the same weight has a name that comes before. -/
structure Leads (split : List (String × Value)) (name : String)
    (q : Quantity) : Prop where
  named : ∃ weight, (name, weight) ∈ split ∧ weight.quantity? = some q
  above : floor.less q = true
  most : ∀ entry ∈ split, ∀ other, entry.2.quantity? = some other →
    q.less other = false
  first : ∀ entry ∈ split, entry.2.quantity? = some q → name ≤ entry.1

/-- A weight equal to the floor, and no greater one before it. -/
def Stuck (split : List (String × Value)) : Prop :=
  ∃ before entry after, split = before ++ entry :: after ∧ AtFloor entry ∧
    ∀ earlier ∈ before, ¬ Above earlier

/-- What a split amounts to. -/
inductive Chooses (split : List (String × Value)) :
    Except Failure (Option String) → Prop
  /-- There is no name to compare with. -/
  | stuck (hstuck : Stuck split) : Chooses split (.error Failure.wrongType)
  | whole {name : String} (hfree : ¬ Stuck split)
      (hwhole : wholeName? split = some name) :
      Chooses split (.ok (some name))
  | most {name : String} {q : Quantity} (hfree : ¬ Stuck split)
      (hnone : wholeName? split = none)
      (hleads : Leads split name q) : Chooses split (.ok (some name))
  | nobody (hfree : ¬ Stuck split) (hnone : ∀ entry ∈ split, ¬ Above entry) :
      Chooses split (.ok none)

theorem whole_above : floor.less whole = true :=
  (Quantity.less_ofInt (-1) 1).trans (decide_eq_true (by decide))

theorem Whole.above {entry : String × Value} (h : Whole entry) : Above entry :=
  ⟨_, h, whole_above⟩

theorem AtFloor.not_above {entry : String × Value} (h : AtFloor entry) :
    ¬ Above entry := by
  rintro ⟨q, hq, hless⟩
  obtain rfl : floor = q := Option.some.inj (h.symm.trans hq)
  rw [Quantity.less_irrefl] at hless
  exact nomatch hless

theorem wholeName?_eq_none :
    wholeName? split = none ↔ ∀ entry ∈ split, ¬ Whole entry := by
  unfold wholeName? Whole
  simp only [Option.map_eq_none_iff, List.find?_eq_none, decide_eq_true_eq]

/-! ## Where the scan can get stuck -/

theorem Stuck.append (h : Stuck split) (more : List (String × Value)) :
    Stuck (split ++ more) := by
  obtain ⟨before, entry, after, rfl, hfloor, hearlier⟩ := h
  exact ⟨before, entry, after ++ more, by simp, hfloor, hearlier⟩

/-- Once a weight above the floor has been met, no later one can get the scan
stuck. -/
theorem not_stuck_append {more : List (String × Value)} (hfree : ¬ Stuck split)
    (habove : ∃ entry ∈ split, Above entry) : ¬ Stuck (split ++ more) := by
  rintro ⟨before, entry, after, hsplit, hfloor, hearlier⟩
  obtain ⟨chosen, hmem, habove⟩ := habove
  rcases List.append_eq_append_iff.1 hsplit with ⟨middle, rfl, -⟩ | ⟨middle,
    rfl, hrest⟩
  · exact hearlier chosen (List.mem_append_left _ hmem) habove
  · cases middle with
    | nil => exact hearlier chosen (by simpa using hmem) habove
    | cons head tail =>
        obtain ⟨rfl, -⟩ := List.cons.inj hrest
        exact hfree ⟨before, _, tail, rfl, hfloor, hearlier⟩

theorem stuck_concat {entry : String × Value}
    (hstuck : Stuck (split ++ [entry])) :
    Stuck split ∨ AtFloor entry ∧ ∀ earlier ∈ split, ¬ Above earlier := by
  obtain ⟨before, found, after, hsplit, hfloor, hearlier⟩ := hstuck
  rcases List.eq_nil_or_concat after with rfl | ⟨after, last, rfl⟩
  · obtain ⟨rfl, hlast⟩ := List.append_inj' hsplit rfl
    obtain rfl := List.head_eq_of_cons_eq hlast
    exact Or.inr ⟨hfloor, hearlier⟩
  · rw [List.concat_eq_append, ← List.cons_append, ← List.append_assoc] at hsplit
    obtain ⟨rfl, -⟩ := List.append_inj' hsplit rfl
    exact Or.inl ⟨before, found, after, rfl, hfloor, hearlier⟩

/-! ## What a split amounts to -/

/-- No two versions lead a split. -/
theorem Leads.unique {other : String} {r : Quantity} (h : Leads split name q)
    (h' : Leads split other r) :
    name = other := by
  obtain ⟨weight, hmem, hq⟩ := h.named
  obtain ⟨weight', hmem', hr⟩ := h'.named
  obtain rfl : q = r :=
    Quantity.eq_of_not_less (Quantity.ne_undefined_of_less h.above).2
    (Quantity.ne_undefined_of_less h'.above).2 (h.most _ hmem' r hr)
      (h'.most _ hmem q hq)
  exact String.le_antisymm (h.first _ hmem' hr) (h'.first _ hmem hq)

theorem Leads.exists_above (h : Leads split name q) :
    ∃ entry ∈ split, Above entry := by
  obtain ⟨weight, hmem, hq⟩ := h.named
  exact ⟨(name, weight), hmem, q, hq, h.above⟩

theorem exists_whole (h : wholeName? split = some name) :
    ∃ weight, (name, weight) ∈ split ∧ Whole (name, weight) := by
  obtain ⟨⟨found, weight⟩, hfind, rfl⟩ := Option.map_eq_some_iff.1 h
  exact ⟨weight, List.mem_of_find?_eq_some hfind, by
    simpa [Whole] using List.find?_some hfind⟩

/-- A split amounts to one thing only. -/
theorem Chooses.unique {outcome outcome' : Except Failure (Option String)}
    (h : Chooses split outcome) (h' : Chooses split outcome') :
    outcome = outcome' := by
  -- all of the traffic, or the most of it, is a weight above the floor
  have habove : ∀ {name}, wholeName? split = some name → ∃ entry ∈ split,
      Above entry := by
    intro name hwhole
    obtain ⟨weight, hmem, hwhole⟩ := exists_whole hwhole
    exact ⟨_, hmem, hwhole.above⟩
  cases h with
  | stuck hstuck =>
      cases h' with
      | stuck _ => rfl
      | whole hfree _ => exact absurd hstuck hfree
      | most hfree _ _ => exact absurd hstuck hfree
      | nobody hfree _ => exact absurd hstuck hfree
  | whole hfree hwhole =>
      cases h' with
      | stuck hstuck => exact absurd hstuck hfree
      | whole _ hwhole' => rw [hwhole] at hwhole'; rw [Option.some.inj hwhole']
      | most _ hnone _ => rw [hwhole] at hnone; exact nomatch hnone
      | nobody _ hnone =>
          obtain ⟨entry, hmem, hentry⟩ := habove hwhole
          exact absurd hentry (hnone entry hmem)
  | most hfree hnone hleads =>
      cases h' with
      | stuck hstuck => exact absurd hstuck hfree
      | whole _ hwhole => rw [hwhole] at hnone; exact nomatch hnone
      | most _ _ hleads' => rw [hleads.unique hleads']
      | nobody _ hnobody =>
          obtain ⟨entry, hmem, hentry⟩ := hleads.exists_above
          exact absurd hentry (hnobody entry hmem)
  | nobody hfree hnobody =>
      cases h' with
      | stuck hstuck => exact absurd hstuck hfree
      | whole _ hwhole =>
          obtain ⟨entry, hmem, hentry⟩ := habove hwhole
          exact absurd hentry (hnobody entry hmem)
      | most _ _ hleads =>
          obtain ⟨entry, hmem, hentry⟩ := hleads.exists_above
          exact absurd hentry (hnobody entry hmem)
      | nobody _ _ => rfl

/-! ## The scan -/

/-- What is known of the entries that the scan has passed, with the best version
so far and its weight in hand. -/
inductive Scanned (seen : List (String × Value)) :
    Option String → Quantity → Prop
  | nobody (hfree : ¬ Stuck seen) (hnone : ∀ entry ∈ seen, ¬ Above entry) :
      Scanned seen none floor
  | leading {name : String} {q : Quantity} (hfree : ¬ Stuck seen)
      (hnone : ∀ entry ∈ seen, ¬ Whole entry)
      (hleads : Leads seen name q) : Scanned seen (some name) q

section Steps

variable {seen : List (String × Value)} {best : Option String} {weight : Value}

theorem Scanned.free (h : Scanned seen best highest) : ¬ Stuck seen := by
  cases h with
  | nobody hfree _ => exact hfree
  | leading hfree _ _ => exact hfree

theorem Scanned.none_whole (h : Scanned seen best highest) :
    ∀ entry ∈ seen, ¬ Whole entry := by
  cases h with
  | nobody _ hnone =>
      exact fun entry hmem hwhole => hnone entry hmem hwhole.above
  | leading _ hnone _ => exact hnone

/-- The weight in hand is never below the floor. -/
theorem Scanned.floor_or_above (h : Scanned seen best highest) :
    highest = floor ∨ floor.less highest = true := by
  cases h with
  | nobody _ _ => exact Or.inl rfl
  | leading _ _ hleads => exact Or.inr hleads.above

theorem Scanned.defined (h : Scanned seen best highest) :
    highest ≠ .undefined := by
  rcases h.floor_or_above with rfl | habove
  · exact Quantity.noConfusion
  · exact (Quantity.ne_undefined_of_less habove).2

/-- None of the passed weights is greater than the one in hand. -/
theorem Scanned.most (h : Scanned seen best highest) : ∀ entry ∈ seen, ∀ other,
    entry.2.quantity? = some other → highest.less other = false := by
  cases h with
  | nobody _ hnone =>
      intro entry hmem other hother
      exact Bool.eq_false_iff.2 fun hless =>
        hnone entry hmem ⟨other, hother, hless⟩
  | leading _ _ hleads => exact hleads.most

theorem none_whole_concat (hnone : ∀ entry ∈ seen, ¬ Whole entry)
    (hq : weight.quantity? = some q) (hwhole : q ≠ whole) :
    ∀ entry ∈ seen ++ [(name, weight)], ¬ Whole entry := by
  intro entry hmem
  rcases List.mem_append.1 hmem with hmem | hmem
  · exact hnone entry hmem
  · obtain rfl := List.mem_singleton.1 hmem
    exact fun h => hwhole (Option.some.inj (hq.symm.trans h))

/-- All of the traffic settles the scan. -/
theorem Scanned.settled (h : Scanned seen best highest)
    (hq : weight.quantity? = some whole) (rest : List (String × Value)) :
    Chooses (seen ++ (name, weight) :: rest) (.ok (some name)) := by
  have hconcat : ¬ Stuck (seen ++ [(name, weight)]) := by
    intro hstuck
    rcases stuck_concat hstuck with hseen | ⟨hfloor, -⟩
    · exact h.free hseen
    · exact hfloor.not_above (Whole.above hq)
  refine .whole ?_ ?_
  · rw [List.append_cons]
    exact not_stuck_append hconcat ⟨(name, weight), by simp, Whole.above hq⟩
  · have hseen : seen.find? (fun entry => entry.2.quantity? = some whole) =
        none := by
      simpa only [wholeName?, Option.map_eq_none_iff]
        using wholeName?_eq_none.2 h.none_whole
    simp [wholeName?, List.find?_append, hseen, hq]

/-- A greater weight takes the lead. -/
theorem Scanned.overtaken (h : Scanned seen best highest)
    (hq : weight.quantity? = some q) (hwhole : q ≠ whole)
    (hless : highest.less q = true) :
    Scanned (seen ++ [(name, weight)]) (some name) q := by
  have habove : floor.less q = true := by
    rcases h.floor_or_above with rfl | habove
    · exact hless
    · exact Quantity.less_trans habove hless
  refine .leading ?_ (none_whole_concat h.none_whole hq hwhole)
    ⟨⟨weight, by simp, hq⟩, habove, ?_, ?_⟩
  · intro hstuck
    rcases stuck_concat hstuck with hseen | ⟨hfloor, -⟩
    · exact h.free hseen
    · exact hfloor.not_above ⟨q, hq, habove⟩
  · intro entry hmem other hother
    rcases List.mem_append.1 hmem with hmem | hmem
    · exact Bool.eq_false_iff.2 fun hgreater =>
        Bool.eq_false_iff.1 (h.most entry hmem other hother)
          (Quantity.less_trans hless hgreater)
    · obtain rfl := List.mem_singleton.1 hmem
      obtain rfl := Option.some.inj (hq.symm.trans hother)
      exact Quantity.less_irrefl q
  · intro entry hmem hentry
    rcases List.mem_append.1 hmem with hmem | hmem
    · rw [h.most entry hmem q hentry] at hless
      exact nomatch hless
    · obtain rfl := List.mem_singleton.1 hmem
      exact String.le_refl name

/-- Of two versions with the weight in hand, the one whose name comes first has
the lead. -/
theorem Scanned.tied (h : Scanned seen (some current) highest)
    (hq : weight.quantity? = some highest) (hwhole : highest ≠ whole)
    {leader : String} (hleader : leader = name ∨ leader = current)
    (hname : leader ≤ name) (hcurrent : leader ≤ current) :
    Scanned (seen ++ [(name, weight)]) (some leader) highest := by
  cases h with
  | leading hfree hnone hleads =>
      refine .leading (not_stuck_append hfree hleads.exists_above)
        (none_whole_concat hnone hq hwhole)
        ⟨?_, hleads.above, ?_, ?_⟩
      · rcases hleader with rfl | rfl
        · exact ⟨weight, by simp, hq⟩
        · obtain ⟨weight', hmem, hweight'⟩ := hleads.named
          exact ⟨weight', List.mem_append_left _ hmem, hweight'⟩
      · intro entry hmem other hother
        rcases List.mem_append.1 hmem with hmem | hmem
        · exact hleads.most entry hmem other hother
        · obtain rfl := List.mem_singleton.1 hmem
          obtain rfl := Option.some.inj (hq.symm.trans hother)
          exact Quantity.less_irrefl highest
      · intro entry hmem hentry
        rcases List.mem_append.1 hmem with hmem | hmem
        · exact String.le_trans hcurrent (hleads.first entry hmem hentry)
        · obtain rfl := List.mem_singleton.1 hmem
          exact hname

/-- A weight that is neither greater nor the same changes nothing. -/
theorem Scanned.passed (h : Scanned seen best highest)
    (hq : weight.quantity? = some q) (hwhole : q ≠ whole)
    (hless : highest.less q = false) (hne : q ≠ highest) :
    Scanned (seen ++ [(name, weight)]) best highest := by
  cases h with
  | nobody hfree hnone =>
      refine .nobody ?_ ?_
      · intro hstuck
        rcases stuck_concat hstuck with hseen | ⟨hfloor, -⟩
        · exact hfree hseen
        · exact hne (Option.some.inj (hq.symm.trans hfloor))
      · intro entry hmem
        rcases List.mem_append.1 hmem with hmem | hmem
        · exact hnone entry hmem
        · obtain rfl := List.mem_singleton.1 hmem
          rintro ⟨other, hother, habove⟩
          obtain rfl := Option.some.inj (hq.symm.trans hother)
          rw [hless] at habove
          exact nomatch habove
  | leading hfree hnone hleads =>
      obtain ⟨weight', hnamed, hweight'⟩ := hleads.named
      refine .leading (not_stuck_append hfree hleads.exists_above)
        (none_whole_concat hnone hq hwhole)
        ⟨⟨weight', List.mem_append_left _ hnamed, hweight'⟩, hleads.above, ?_, ?_⟩
      · intro entry hmem other hother
        rcases List.mem_append.1 hmem with hmem | hmem
        · exact hleads.most entry hmem other hother
        · obtain rfl := List.mem_singleton.1 hmem
          obtain rfl := Option.some.inj (hq.symm.trans hother)
          exact hless
      · intro entry hmem hentry
        rcases List.mem_append.1 hmem with hmem | hmem
        · exact hleads.first entry hmem hentry
        · obtain rfl := List.mem_singleton.1 hmem
          exact absurd (Option.some.inj (hq.symm.trans hentry)) hne

end Steps

/-- Whatever the scan has passed, it ends with what the whole split amounts
to. -/
theorem chooses_selectFrom :
    ∀ (rest seen : List (String × Value)) {best : Option String} {highest :
      Quantity},
    Numeric rest → Scanned seen best highest →
      Chooses (seen ++ rest) (selectFrom best highest rest)
  | [], seen, best, highest, _, h => by
      rw [List.append_nil, selectFrom]
      cases h with
      | nobody hfree hnone => exact .nobody hfree hnone
      | leading hfree hnone hleads =>
          exact .most hfree (wholeName?_eq_none.2 hnone) hleads
  | (name, weight) :: rest, seen, best, highest, hnumeric, h => by
      obtain ⟨q, hq⟩ := hnumeric (name, weight) List.mem_cons_self
      have hrest : Numeric rest := fun entry hmem =>
        hnumeric entry (List.mem_cons_of_mem _ hmem)
      simp only [selectFrom, hq]
      split
      · next hwhole =>
          obtain ⟨rfl, -⟩ := Quantity.equal_iff.1 hwhole
          exact h.settled hq rest
      · next hwhole =>
          have hwhole : q ≠ whole := by
            rintro rfl
            exact hwhole (Quantity.equal_iff.2 ⟨rfl, Quantity.noConfusion⟩)
          rw [List.append_cons]
          split
          · next hless =>
              exact chooses_selectFrom rest _ hrest
                (h.overtaken hq hwhole hless)
          · next hless =>
              have hless : highest.less q = false := Bool.eq_false_iff.2 hless
              split
              · next hequal =>
                  obtain ⟨rfl, -⟩ := Quantity.equal_iff.1 hequal
                  cases best with
                  | none =>
                      cases h with
                      | nobody hfree hnone =>
                          exact .stuck (Stuck.append ⟨seen, (name, weight), [],
                            rfl, hq, hnone⟩ rest)
                  | some current =>
                      dsimp only
                      split
                      · next hbefore =>
                          exact chooses_selectFrom rest _ hrest
                            (h.tied hq hwhole (Or.inl rfl) (String.le_refl _)
                            (String.not_lt.1 (String.lt_asymm hbefore)))
                      · next hbefore =>
                          exact chooses_selectFrom rest _ hrest
                            (h.tied hq hwhole (Or.inr rfl)
                            (String.not_lt.1 hbefore) (String.le_refl _))
              · next hequal =>
                  refine chooses_selectFrom rest _ hrest
                    (h.passed hq hwhole hless ?_)
                  rintro rfl
                  exact hequal (Quantity.equal_iff.2 ⟨rfl, h.defined⟩)

theorem not_stuck_nil : ¬ Stuck [] := by
  rintro ⟨before, entry, after, hsplit, -⟩
  cases before <;> exact nomatch hsplit

/-- The scan of a split ends with what the split amounts to. -/
theorem chooses_selectDefault (hnumeric : Numeric split) :
    Chooses split (selectDefault split) :=
  chooses_selectFrom split [] hnumeric (.nobody not_stuck_nil fun _ hmem =>
    nomatch hmem)

/-! ## Every split -/

theorem selectDefaultOf_record (split : List (String × Value)) :
    selectDefaultOf (.record split) = selectDefault split := by
  cases split <;> rfl

/-- No entry gets the scan stuck where all weights are above the floor. -/
theorem not_stuck_of_above (habove : ∀ entry ∈ split, Above entry) :
    ¬ Stuck split := by
  rintro ⟨before, entry, after, rfl, hfloor, -⟩
  exact hfloor.not_above (habove entry (by simp))

/-- Where all weights are above the floor, a version of the split is chosen: the
first that receives all of the traffic, or else the one of most traffic. -/
theorem exists_name_of_above (hnumeric : Numeric split) (hne : split ≠ [])
    (habove : ∀ entry ∈ split, Above entry) :
    ∃ name weight, (name, weight) ∈ split ∧
      selectDefault split = .ok (some name) ∧
      (wholeName? split = some name ∨ wholeName? split = none ∧
        ∃ q, Leads split name q) := by
  have hchooses := chooses_selectDefault hnumeric
  generalize hchosen : selectDefault split = outcome at hchooses
  cases hchooses with
  | stuck hstuck => exact absurd hstuck (not_stuck_of_above habove)
  | @whole name _ hwhole =>
      obtain ⟨weight, hmem, -⟩ := exists_whole hwhole
      exact ⟨name, weight, hmem, rfl, Or.inl hwhole⟩
  | @most name q _ hnone hleads =>
      obtain ⟨weight, hmem, -⟩ := hleads.named
      exact ⟨name, weight, hmem, rfl, Or.inr ⟨hnone, q, hleads⟩⟩
  | nobody _ hnobody =>
      obtain ⟨entry, hmem⟩ := List.exists_mem_of_ne_nil split hne
      exact absurd (habove entry hmem) (hnobody entry hmem)

theorem Leads.perm (h : Leads split name q) (hperm : split.Perm others) :
    Leads others name q := by
  obtain ⟨weight, hmem, hq⟩ := h.named
  exact ⟨⟨weight, hperm.mem_iff.1 hmem, hq⟩, h.above,
    fun entry hentry => h.most entry (hperm.mem_iff.2 hentry),
    fun entry hentry => h.first entry (hperm.mem_iff.2 hentry)⟩

/-- The order of a split matters only to which of several versions with all of
the traffic comes first. -/
theorem selectDefault_perm (hnumeric : Numeric split)
    (habove : ∀ entry ∈ split, Above entry)
    (hone : ∀ a ∈ split, ∀ b ∈ split, Whole a → Whole b → a.1 = b.1)
    (hperm : split.Perm others) :
    selectDefault others = selectDefault split := by
  have hnumeric' : Numeric others := fun entry hmem =>
    hnumeric entry (hperm.mem_iff.2 hmem)
  have habove' : ∀ entry ∈ others, Above entry := fun entry hmem =>
    habove entry (hperm.mem_iff.2 hmem)
  by_cases hne : split = []
  · subst hne
    rw [List.nil_perm.1 hperm]
  · have hne' : others ≠ [] := by
      rintro rfl
      exact hne (List.perm_nil.1 hperm)
    obtain ⟨name, weight, -, hchosen, hname⟩ :=
      exists_name_of_above hnumeric hne habove
    obtain ⟨name', weight', -, hchosen', hname'⟩ :=
      exists_name_of_above hnumeric' hne' habove'
    rw [hchosen, hchosen']
    rcases hname with hwhole | ⟨hnone, q, hleads⟩
    · obtain ⟨weight, hmem, hentry⟩ := exists_whole hwhole
      rcases hname' with hwhole' | ⟨hnone', -⟩
      · obtain ⟨weight', hmem', hentry'⟩ := exists_whole hwhole'
        have hsame : name' = name :=
          hone _ (hperm.mem_iff.2 hmem') _ hmem hentry' hentry
        rw [hsame]
      · exact absurd hentry
          (wholeName?_eq_none.1 hnone' _ (hperm.mem_iff.1 hmem))
    · rcases hname' with hwhole' | ⟨-, q', hleads'⟩
      · obtain ⟨weight', hmem', hentry'⟩ := exists_whole hwhole'
        exact absurd hentry'
          (wholeName?_eq_none.1 hnone _ (hperm.mem_iff.2 hmem'))
      · rw [hleads'.unique (hleads.perm hperm)]

/-- **The default version of a split.**  The scan of a split with numbers as
weights ends with what the split amounts to, and with nothing else: it gets
stuck if a weight of minus one has no greater one before it; else it ends with
the first version whose weight is one, or else with the version of greatest
weight above minus one, of several the one whose name comes first, or with none
if there is no such weight.  If all weights are above minus one, as those are
that are at least zero, then a version of the split is chosen, if there is one;
and it is the same in whatever order the split is written, if no two versions
have the weight one. -/
theorem default_version (split : List (String × Value))
    (hnumeric : Numeric split) :
    (∀ outcome, selectDefaultOf (.record split) = outcome ↔
      Chooses split outcome) ∧
    (∀ entry : String × Value, ∀ q, entry.2.quantity? = some q →
      q = .ofInt 0 ∨ (Quantity.ofInt 0).less q = true → Above entry) ∧
    ((∀ entry ∈ split, Above entry) →
      (split ≠ [] → ∃ name weight, (name, weight) ∈ split ∧
        selectDefaultOf (.record split) = .ok (some name) ∧
        (wholeName? split = some name ∨ wholeName? split = none ∧
          ∃ q, Leads split name q)) ∧
      ((∀ a ∈ split, ∀ b ∈ split, Whole a → Whole b → a.1 = b.1) → ∀ others,
        split.Perm others →
        selectDefaultOf (.record others) = selectDefaultOf (.record split))) := by
  simp only [selectDefaultOf_record]
  refine ⟨fun outcome => ⟨?_, (chooses_selectDefault hnumeric).unique⟩, ?_,
    fun habove => ⟨?_, ?_⟩⟩
  · rintro rfl
    exact chooses_selectDefault hnumeric
  · intro entry q hq hzero
    have hfloor : floor.less (.ofInt 0) = true :=
      (Quantity.less_ofInt (-1) 0).trans (decide_eq_true (by decide))
    rcases hzero with rfl | hzero
    · exact ⟨_, hq, hfloor⟩
    · exact ⟨_, hq, Quantity.less_trans hfloor hzero⟩
  · exact fun hne => exists_name_of_above hnumeric hne habove
  · exact fun hone others hperm => selectDefault_perm hnumeric habove hone hperm

/-- An infinite weight, and behind it two that are one: a truth value and an
integer. -/
def crowded : List (String × Value) :=
  [("v3", .double (Double.infinity false)), ("v2", .bool true), ("v1", .int 1)]

/-- A weight of one is chosen before a greater one, and the first before the one
whose name comes first. -/
theorem default_version_of_crowded :
    Numeric crowded ∧ selectDefaultOf (.record crowded) = .ok (some "v2") := by
  have habove : ∀ entry ∈ crowded, Above entry := by
    intro entry hmem
    simp only [crowded, List.mem_cons, List.not_mem_nil, or_false] at hmem
    rcases hmem with rfl | rfl | rfl
    · exact ⟨.above, by decide, rfl⟩
    · exact ⟨whole, rfl, whole_above⟩
    · exact ⟨whole, rfl, whole_above⟩
  have hnumeric : Numeric crowded := fun entry hmem => (habove entry hmem).imp
    fun q hq => hq.1
  have hwhole : wholeName? crowded = some "v2" := by decide +kernel
  exact ⟨hnumeric,
    ((default_version crowded hnumeric).1 _).2
    (.whole (not_stuck_of_above habove) hwhole)⟩

end Traffic
end HostedModules
