import Mathlib

/-!
# Lists as sets and in order

* `IsOrderOn.mergeSort_eq_of_perm`: sorting does not see how a list was ordered before, where the
  order tells its members apart.
* `nodup_map_append_singleton`: keys stay distinct when a member with a new key comes last.
* `perm_filter_of_mem_iff`: two tests on two lists without repetition that the same members pass.
* `perm_eraseDups`: the distinct members of a list do not depend on its order.
* `eraseDups_sublist`, `mem_take_eraseDups`: how they stand, and which of them come first.
* `length_eq_sum_count`: its length is the sum of the counts of the values in it.
-/

namespace MailSearch

variable {α : Type} {le : α → α → Bool} {l l' : List α}

/-- An order on the members of a list. -/
structure IsOrderOn (le : α → α → Bool) (l : List α) : Prop where
  trans : ∀ a ∈ l, ∀ b ∈ l, ∀ c ∈ l, le a b = true → le b c = true → le a c = true
  total : ∀ a ∈ l, ∀ b ∈ l, (le a b || le b a) = true
  antisymm : ∀ a ∈ l, ∀ b ∈ l, le a b = true → le b a = true → a = b

theorem IsOrderOn.mono (h : IsOrderOn le l) (hsub : l' ⊆ l) : IsOrderOn le l' where
  trans a ha b hb c hc := h.trans a (hsub ha) b (hsub hb) c (hsub hc)
  total a ha b hb := h.total a (hsub ha) b (hsub hb)
  antisymm a ha b hb := h.antisymm a (hsub ha) b (hsub hb)

/-- An order by a key that tells the members apart. -/
theorem isOrderOn_of_key {κ : Type} [LinearOrder κ] (key : α → κ)
    (hle : ∀ a ∈ l, ∀ b ∈ l, le a b = true ↔ key a ≤ key b)
    (hkey : ∀ a ∈ l, ∀ b ∈ l, key a = key b → a = b) : IsOrderOn le l where
  trans a ha b hb c hc := by
    rw [hle a ha b hb, hle b hb c hc, hle a ha c hc]
    exact le_trans
  total a ha b hb := by
    rw [Bool.or_eq_true, hle a ha b hb, hle b hb a ha]
    exact le_total _ _
  antisymm a ha b hb := by
    rw [hle a ha b hb, hle b hb a ha]
    exact fun hab hba => hkey a ha b hb (le_antisymm hab hba)

/-- A sorted list is in order where the order is one of its members. -/
theorem IsOrderOn.pairwise_mergeSort (h : IsOrderOn le l) :
    (l.mergeSort le).Pairwise fun a b => le a b = true := by
  let sub (a b : { x // x ∈ l }) : Bool := le a b
  have hsort : (l.attach.mergeSort sub).map Subtype.val = l.mergeSort le := by
    rw [List.map_mergeSort (s := le) fun _ _ _ _ => rfl, List.attach_map_subtype_val]
  rw [← hsort, List.pairwise_map]
  refine List.pairwise_mergeSort (fun a b c => ?_) (fun a b => ?_) _
  · exact h.trans a a.2 b b.2 c c.2
  · exact h.total a a.2 b b.2

/-- Sorting does not see how the list was ordered before. -/
theorem IsOrderOn.mergeSort_eq_of_perm (h : IsOrderOn le l) (hperm : l.Perm l') :
    l.mergeSort le = l'.mergeSort le := by
  have h' : IsOrderOn le l' := h.mono hperm.symm.subset
  refine List.Perm.eq_of_pairwise (fun a b ha hb => ?_) h.pairwise_mergeSort h'.pairwise_mergeSort
    ((List.mergeSort_perm l le).trans (hperm.trans (List.mergeSort_perm l' le).symm))
  exact h.antisymm a (List.mem_mergeSort.mp ha) b (hperm.mem_iff.mpr (List.mem_mergeSort.mp hb))

/-- Keys stay distinct when a member with a new key comes last. -/
theorem nodup_map_append_singleton {κ : Type} {key : α → κ} {a : α} (h : (l.map key).Nodup)
    (hnew : ∀ x ∈ l, key x ≠ key a) : ((l ++ [a]).map key).Nodup := by
  rw [List.map_append, List.map_singleton, ← List.concat_eq_append, List.nodup_concat]
  refine ⟨fun hmem => ?_, h⟩
  obtain ⟨x, hx, hkey⟩ := List.mem_map.mp hmem
  exact hnew x hx hkey

/-- Where the same members pass, the same members are left. -/
theorem perm_filter_of_mem_iff {p q : α → Bool} (hl : l.Nodup) (hl' : l'.Nodup)
    (h : ∀ a, (a ∈ l ∧ p a = true) ↔ (a ∈ l' ∧ q a = true)) : (l.filter p).Perm (l'.filter q) := by
  refine (List.perm_ext_iff_of_nodup (hl.filter p) (hl'.filter q)).mpr fun a => ?_
  rw [List.mem_filter, List.mem_filter, h a]

theorem nodup_eraseDups [DecidableEq α] (l : List α) : l.eraseDups.Nodup := by
  induction h : l.length using Nat.strong_induction_on generalizing l with
  | _ n ih =>
    cases l with
    | nil => exact List.nodup_nil
    | cons a l =>
      rw [List.eraseDups_cons, List.nodup_cons]
      refine ⟨fun ha => ?_, ih _ ?_ _ rfl⟩
      · simpa using (List.mem_filter.mp (List.mem_eraseDups.mp ha)).2
      · rw [← h]
        exact Nat.lt_succ_of_le (List.length_filter_le _ _)

/-- The distinct members of a list do not depend on its order. -/
theorem perm_eraseDups [DecidableEq α] (h : l.Perm l') : l.eraseDups.Perm l'.eraseDups := by
  refine (List.perm_ext_iff_of_nodup (nodup_eraseDups l) (nodup_eraseDups l')).mpr fun a => ?_
  rw [List.mem_eraseDups, List.mem_eraseDups, h.mem_iff]

/-- The distinct members stand in the order in which they come first. -/
theorem eraseDups_sublist [DecidableEq α] (l : List α) : l.eraseDups.Sublist l := by
  induction h : l.length using Nat.strong_induction_on generalizing l with
  | _ n ih =>
    cases l with
    | nil => exact .refl _
    | cons a l =>
      rw [List.eraseDups_cons]
      refine .cons_cons a ((ih _ ?_ _ rfl).trans List.filter_sublist)
      rw [← h]
      exact Nat.lt_succ_of_le (List.length_filter_le _ _)

/-- There are no more distinct images than distinct members. -/
theorem length_eraseDups_map_le {β : Type} [DecidableEq α] [DecidableEq β] (f : α → β)
    (l : List α) : (l.map f).eraseDups.length ≤ l.eraseDups.length := by
  have hsub : (l.map f).eraseDups ⊆ l.eraseDups.map f := by
    intro b hb
    obtain ⟨a, ha, rfl⟩ := List.mem_map.mp (List.mem_eraseDups.mp hb)
    exact List.mem_map_of_mem (List.mem_eraseDups.mpr ha)
  have hlength := (List.subperm_of_subset (nodup_eraseDups _) hsub).length_le
  rwa [List.length_map] at hlength

/-- A member with few distinct ones before it is among the first distinct ones. -/
theorem mem_take_eraseDups [DecidableEq α] {before after : List α} {a : α} {n : Nat}
    (h : before.eraseDups.length < n) : a ∈ (before ++ a :: after).eraseDups.take n := by
  rw [List.eraseDups_append, List.take_append, List.take_of_length_le (Nat.le_of_lt h),
    List.mem_append, List.mem_eraseDups]
  by_cases ha : a ∈ before
  · exact .inl ha
  · obtain ⟨k, hk⟩ := Nat.exists_eq_succ_of_ne_zero (Nat.sub_ne_zero_of_lt h)
    have hfirst : (a :: after).removeAll before = a :: after.removeAll before :=
      List.filter_cons_of_pos (by simpa using ha)
    rw [hfirst, List.eraseDups_cons, hk, List.take_succ_cons]
    exact .inr (List.mem_cons_self ..)

/-! ## Counting -/

/-- The members of a list, counted one value after the other. -/
theorem length_eq_sum_count [DecidableEq α] {values : List α} (hvalues : values.Nodup)
    (h : ∀ a ∈ l, a ∈ values) : l.length = (values.map l.count).sum := by
  have hsum := Multiset.sum_count_eq_card (s := values.toFinset) (m := l) fun a ha =>
    List.mem_toFinset.mpr (h a ha)
  rw [List.sum_toFinset _ hvalues] at hsum
  simpa using hsum.symm

/-- Sums with smaller summands are equal exactly if no summand is smaller. -/
theorem sum_map_eq_iff {f g : α → Nat} (h : ∀ a ∈ l, f a ≤ g a) :
    (l.map f).sum = (l.map g).sum ↔ ∀ a ∈ l, f a = g a := by
  induction l with
  | nil => simp
  | cons a l ih =>
    rw [List.forall_mem_cons] at h
    have hle := List.sum_le_sum h.2
    rw [List.forall_mem_cons, ← ih h.2, List.map_cons, List.map_cons, List.sum_cons, List.sum_cons]
    have ha := h.1
    omega

end MailSearch
