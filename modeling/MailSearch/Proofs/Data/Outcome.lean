/-!
# Lists of outcomes

`List.mapM` and `List.filterM` over steps that can fail.

* `mapM_eq_ok`, `filterM_eq_ok`: where every step succeeds, so does the whole, as `map` and `filter`
  do.
* `mapM_map_result`: what is done to every result.
* `exists_of_mapM_eq_ok`, `exists_result_of_mapM_eq_ok`, `length_of_mapM_eq_ok`,
  `map_of_mapM_eq_ok`, `pairwise_of_mapM_eq_ok`, `of_filterM_eq_ok`, `exists_of_filterM_eq_ok`: what
  a whole that succeeds says of its members.
* `Returns`: success alone. `returns_mapM_iff`: the whole succeeds if and only if every step does.
-/

namespace MailSearch.Outcome

variable {ε α β : Type}

/-- Both parts of a sequence that succeeds succeed. -/
theorem bind_eq_ok {x : Except ε α} {f : α → Except ε β} {b : β} (h : x >>= f = .ok b) :
    ∃ a, x = .ok a ∧ f a = .ok b := by
  cases x with
  | error e => cases h
  | ok a => exact ⟨a, rfl, h⟩

/-- A sequence that fails does so in one of its parts. -/
theorem bind_eq_error {x : Except ε α} {f : α → Except ε β} {e : ε} (h : x >>= f = .error e) :
    x = .error e ∨ ∃ a, x = .ok a ∧ f a = .error e := by
  cases x with
  | error e' =>
    cases h
    exact .inl rfl
  | ok a => exact .inr ⟨a, rfl, h⟩

theorem map_eq_ok {x : Except ε α} {f : α → β} {b : β} (h : x.map f = .ok b) :
    ∃ a, x = .ok a ∧ f a = b := by
  cases x with
  | error e => cases h
  | ok a =>
    cases h
    exact ⟨a, rfl, rfl⟩

/-- The step succeeds, whatever it gives. -/
def Returns (x : Except ε α) : Prop := ∃ a, x = .ok a

theorem Returns.map {x : Except ε α} (h : Returns x) (f : α → β) : Returns (x.map f) := by
  obtain ⟨a, rfl⟩ := h
  exact ⟨f a, rfl⟩

theorem not_returns_error {e : ε} : ¬ Returns (.error e : Except ε α) :=
  fun h => h.elim fun _ h => nomatch h

/-! ## All members -/

theorem mapM_eq_ok {f : α → Except ε β} {g : α → β} {l : List α}
    (h : ∀ x ∈ l, f x = .ok (g x)) : l.mapM f = .ok (l.map g) := by
  induction l with
  | nil => rfl
  | cons x l ih =>
    rw [List.mapM_cons, h x List.mem_cons_self, ih fun y hy => h y (List.mem_cons_of_mem _ hy)]
    rfl

theorem mapM_map_eq_ok {γ : Type} {f : γ → α} {g : α → Except ε β} {k : γ → β} {l : List γ}
    (h : ∀ x ∈ l, g (f x) = .ok (k x)) : (l.map f).mapM g = .ok (l.map k) := by
  rw [List.mapM_map]
  exact mapM_eq_ok h

theorem mapM_congr {f g : α → Except ε β} {l : List α} (h : ∀ x ∈ l, f x = g x) :
    l.mapM f = l.mapM g := by
  induction l with
  | nil => rfl
  | cons x l ih =>
    rw [List.mapM_cons, List.mapM_cons, h x List.mem_cons_self,
      ih fun y hy => h y (List.mem_cons_of_mem _ hy)]

/-- What is done to every result is done to the list of them. -/
theorem mapM_map_result {γ : Type} (f : α → Except ε β) (g : β → γ) (l : List α) :
    l.mapM (fun x => (f x).map g) = (l.mapM f).map (List.map g) := by
  induction l with
  | nil => rfl
  | cons x l ih =>
    rw [List.mapM_cons, List.mapM_cons, ih]
    cases f x with
    | error e => rfl
    | ok y => cases l.mapM f <;> rfl

/-- Every result comes from a member. -/
theorem exists_of_mapM_eq_ok {f : α → Except ε β} {l : List α} {ys : List β}
    (h : l.mapM f = .ok ys) : ∀ y ∈ ys, ∃ x ∈ l, f x = .ok y := by
  induction l generalizing ys with
  | nil =>
    cases h
    simp
  | cons x l ih =>
    rw [List.mapM_cons] at h
    obtain ⟨y, hy, h⟩ := bind_eq_ok h
    obtain ⟨zs, hzs, h⟩ := bind_eq_ok h
    cases h
    intro z hz
    rcases List.mem_cons.mp hz with rfl | hz
    · exact ⟨x, List.mem_cons_self, hy⟩
    · obtain ⟨w, hw, hf⟩ := ih hzs z hz
      exact ⟨w, List.mem_cons_of_mem _ hw, hf⟩

/-- What each result has of its member, the results have of the members. -/
theorem map_of_mapM_eq_ok {γ : Type} {f : α → Except ε β} {g : β → γ} {k : α → γ}
    (hk : ∀ {x y}, f x = .ok y → g y = k x) {l : List α} {ys : List β} (h : l.mapM f = .ok ys) :
    ys.map g = l.map k := by
  induction l generalizing ys with
  | nil =>
    cases h
    rfl
  | cons x l ih =>
    rw [List.mapM_cons] at h
    obtain ⟨y, hy, h⟩ := bind_eq_ok h
    obtain ⟨zs, hzs, h⟩ := bind_eq_ok h
    cases h
    rw [List.map_cons, List.map_cons, hk hy, ih hzs]

/-- Results are related as their members are. -/
theorem pairwise_of_mapM_eq_ok {f : α → Except ε β} {R : α → α → Prop} {S : β → β → Prop}
    (hRS : ∀ {x x' y y'}, f x = .ok y → f x' = .ok y' → R x x' → S y y') {l : List α}
    {ys : List β} (h : l.mapM f = .ok ys) (hl : l.Pairwise R) : ys.Pairwise S := by
  induction l generalizing ys with
  | nil =>
    cases h
    exact List.Pairwise.nil
  | cons x l ih =>
    rw [List.mapM_cons] at h
    obtain ⟨y, hy, h⟩ := bind_eq_ok h
    obtain ⟨zs, hzs, h⟩ := bind_eq_ok h
    cases h
    rw [List.pairwise_cons] at hl ⊢
    refine ⟨fun z hz => ?_, ih hzs hl.2⟩
    obtain ⟨w, hw, hf⟩ := exists_of_mapM_eq_ok hzs z hz
    exact hRS hy hf (hl.1 w hw)

/-- There is a result for every member. -/
theorem length_of_mapM_eq_ok {f : α → Except ε β} {l : List α} {ys : List β}
    (h : l.mapM f = .ok ys) : ys.length = l.length := by
  induction l generalizing ys with
  | nil =>
    cases h
    rfl
  | cons x l ih =>
    rw [List.mapM_cons] at h
    obtain ⟨y, -, h⟩ := bind_eq_ok h
    obtain ⟨zs, hzs, h⟩ := bind_eq_ok h
    cases h
    rw [List.length_cons, List.length_cons, ih hzs]

/-- The whole succeeds if and only if every step does. -/
theorem returns_mapM_iff {f : α → Except ε β} {l : List α} :
    Returns (l.mapM f) ↔ ∀ x ∈ l, Returns (f x) := by
  induction l with
  | nil => exact ⟨fun _ x hx => (List.not_mem_nil hx).elim, fun _ => ⟨[], rfl⟩⟩
  | cons x l ih =>
    rw [List.forall_mem_cons, ← ih, List.mapM_cons]
    constructor
    · rintro ⟨zs, h⟩
      obtain ⟨y, hy, h⟩ := bind_eq_ok h
      obtain ⟨ys, hys, -⟩ := bind_eq_ok h
      exact ⟨⟨y, hy⟩, ⟨ys, hys⟩⟩
    · rintro ⟨⟨y, hy⟩, ⟨ys, hys⟩⟩
      rw [hy, hys]
      exact ⟨y :: ys, rfl⟩

/-! ## Chosen members -/

theorem filterAuxM_eq_ok {p : α → Except ε Bool} {q : α → Bool} {l acc : List α}
    (h : ∀ x ∈ l, p x = .ok (q x)) :
    l.filterAuxM p acc = .ok ((l.filter q).reverse ++ acc) := by
  induction l generalizing acc with
  | nil => rfl
  | cons x l ih =>
    have htail := fun y hy => h y (List.mem_cons_of_mem _ hy)
    rw [List.filterAuxM, h x List.mem_cons_self]
    show l.filterAuxM p (cond (q x) (x :: acc) acc) = _
    rw [ih htail]
    cases hq : q x
    · rw [List.filter_cons_of_neg (by simp [hq])]
      rfl
    · rw [List.filter_cons_of_pos hq, List.reverse_cons, List.append_assoc]
      rfl

theorem filterM_eq_ok {p : α → Except ε Bool} {q : α → Bool} {l : List α}
    (h : ∀ x ∈ l, p x = .ok (q x)) : l.filterM p = .ok (l.filter q) := by
  unfold List.filterM
  rw [filterAuxM_eq_ok h]
  show Except.ok ((l.filter q).reverse ++ []).reverse = _
  rw [List.append_nil, List.reverse_reverse]

theorem of_filterAuxM_eq_ok {p : α → Except ε Bool} {l acc ys : List α}
    (h : l.filterAuxM p acc = .ok ys) : ∀ y ∈ ys, (y ∈ l ∧ p y = .ok true) ∨ y ∈ acc := by
  induction l generalizing acc with
  | nil =>
    cases h
    exact fun y hy => .inr hy
  | cons x l ih =>
    rw [List.filterAuxM] at h
    obtain ⟨b, hb, h⟩ := bind_eq_ok h
    intro y hy
    rcases ih h y hy with ⟨hmem, hp⟩ | hacc
    · exact .inl ⟨List.mem_cons_of_mem _ hmem, hp⟩
    · cases b with
      | false => exact .inr hacc
      | true =>
        rcases List.mem_cons.mp hacc with rfl | hacc
        · exact .inl ⟨List.mem_cons_self, hb⟩
        · exact .inr hacc

/-- Every member chosen passes the test. -/
theorem of_filterM_eq_ok {p : α → Except ε Bool} {l ys : List α} (h : l.filterM p = .ok ys) :
    ∀ y ∈ ys, y ∈ l ∧ p y = .ok true := by
  unfold List.filterM at h
  obtain ⟨zs, hzs, h⟩ := bind_eq_ok h
  cases h
  intro y hy
  rcases of_filterAuxM_eq_ok hzs y (List.mem_reverse.mp hy) with h | h
  · exact h
  · cases h

theorem exists_of_filterAuxM_eq_ok {p : α → Except ε Bool} {l acc ys : List α}
    (h : l.filterAuxM p acc = .ok ys) : ∀ x ∈ l, ∃ b, p x = .ok b := by
  induction l generalizing acc with
  | nil => simp
  | cons x l ih =>
    rw [List.filterAuxM] at h
    obtain ⟨b, hb, h⟩ := bind_eq_ok h
    rw [List.forall_mem_cons]
    exact ⟨⟨b, hb⟩, ih h⟩

/-- The test is decided for every member. -/
theorem exists_of_filterM_eq_ok {p : α → Except ε Bool} {l ys : List α}
    (h : l.filterM p = .ok ys) : ∀ x ∈ l, ∃ b, p x = .ok b := by
  unfold List.filterM at h
  obtain ⟨zs, hzs, -⟩ := bind_eq_ok h
  exact exists_of_filterAuxM_eq_ok hzs

end MailSearch.Outcome
