import DesignGauge.Proofs.Measure.Alike
import DesignGauge.Proofs.Measure.Finite
import Mathlib.Algebra.BigOperators.Fin
import Mathlib.Data.Fintype.BigOperators

/-!
# Cohesion as a graph

The ordinary methods are the vertices of a graph, each position being one of its own even if the
same method stands at two. An edge joins two positions whose methods use a common name. The cohesive
pairs are the edges of this graph: they depend on nothing but the sets of names at the positions,
grow with these sets, and where the graph falls into two parts there are no more of them than inside
the parts.

Results:
1. `card_sharingPositions`: there are twice as many ordered pairs as cohesive ones.
2. `length_cohesivePairs_le`: methods that use more names have no fewer cohesive pairs.
3. `length_cohesivePairs_map`: whatever keeps which methods share keeps the number of pairs.
4. `length_cohesivePairs_append`: the cohesive pairs of two groups that share no name.
5. `cohesion_graph`: the numerator of tight cohesion for every file.
-/

namespace DesignGauge.Measure

theorem shares_iff {a b : MethodDecl} :
    shares a b = true ↔ ∃ name ∈ a.usedNames, name ∈ b.usedNames := by
  simp only [shares, List.any_eq_true, List.contains_iff_mem]

/-! ## Positions -/

/-- The ordered pairs of different positions at which a common name is used. -/
def sharingPositions (methods : List MethodDecl) :
    Finset (Fin methods.length × Fin methods.length) :=
  Finset.univ.filter fun p => p.1 ≠ p.2 ∧
    ∃ name ∈ (methods.get p.1).usedNames, name ∈ (methods.get p.2).usedNames

/-- Counting along positions is counting along the list. -/
theorem sum_positions {α : Type} (p : α → Bool) (l : List α) :
    ∑ i : Fin l.length, (if p (l.get i) = true then 1 else 0) = l.countP p := by
  induction l with
  | nil => rfl
  | cons a rest ih =>
    rw [List.countP_cons, ← ih, Nat.add_comm]
    exact Fin.sum_univ_succ _

/-- The corner, the first column, the first row and the rest of a square. -/
theorem sum_square_succ {n : Nat} (f : Fin (n + 1) → Fin (n + 1) → Nat) :
    ∑ i, ∑ j, f i j = f 0 0 + ∑ i : Fin n, f i.succ 0 +
      (∑ j : Fin n, f 0 j.succ + ∑ i : Fin n, ∑ j : Fin n, f i.succ j.succ) := by
  simp only [Fin.sum_univ_succ, Finset.sum_add_distrib]

/-- Every cohesive pair is counted in both of its orders. -/
theorem card_sharingPositions (methods : List MethodDecl) :
    (sharingPositions methods).card = 2 * (cohesivePairs methods).length := by
  have counted (l : List MethodDecl) : (sharingPositions l).card = ∑ i : Fin l.length,
      ∑ j : Fin l.length, if i ≠ j ∧ shares (l.get i) (l.get j) = true then 1 else 0 := by
    simp only [sharingPositions, Finset.card_filter, Fintype.sum_prod_type, shares_iff]
  induction methods with
  | nil => rfl
  | cons a rest ih =>
    -- the first method is paired with the others once in its column and once in its row
    have column : ∑ i : Fin rest.length, (if i.succ ≠ (0 : Fin (rest.length + 1)) ∧
        shares (rest.get i) a = true then 1 else 0) = rest.countP (shares a) := by
      simp only [ne_eq, Fin.succ_ne_zero, not_false_eq_true, true_and, shares_comm _ a]
      exact sum_positions (shares a) rest
    have row : ∑ j : Fin rest.length, (if (0 : Fin (rest.length + 1)) ≠ j.succ ∧
        shares a (rest.get j) = true then 1 else 0) = rest.countP (shares a) := by
      simp only [ne_eq, (Fin.succ_ne_zero _).symm, not_false_eq_true, true_and]
      exact sum_positions (shares a) rest
    have inner : ∑ i : Fin rest.length, ∑ j : Fin rest.length, (if i.succ ≠ j.succ ∧
        shares (rest.get i) (rest.get j) = true then 1 else 0) =
          2 * (cohesivePairs rest).length := by
      simp only [ne_eq, Fin.succ_inj]
      rw [← ih, counted]
    rw [counted, length_cohesivePairs_cons, Nat.mul_add]
    refine (sum_square_succ _).trans ?_
    rw [if_neg fun both => both.1 rfl, Nat.zero_add, Nat.two_mul, Nat.add_assoc]
    exact congrArg₂ (· + ·) column (congrArg₂ (· + ·) row inner)

/-! ## Names at the positions -/

theorem countP_shares_le {a a' : MethodDecl} (more : a.usedNames ⊆ a'.usedNames)
    {methods methods' : List MethodDecl}
    (aligned : List.Forall₂ (fun m m' => m.usedNames ⊆ m'.usedNames) methods methods') :
    methods.countP (shares a) ≤ methods'.countP (shares a') := by
  induction aligned with
  | nil => exact Nat.le_refl 0
  | @cons m m' _ _ moreHere _ ih =>
    have kept : shares a m = true → shares a' m' = true := by
      rw [shares_iff, shares_iff]
      rintro ⟨name, inFirst, inSecond⟩
      exact ⟨name, more inFirst, moreHere inSecond⟩
    rw [List.countP_cons, List.countP_cons]
    refine Nat.add_le_add ih ?_
    split
    · rw [if_pos (kept ‹_›)]
    · exact Nat.zero_le _

/-- Where no method uses fewer names, no cohesive pair is lost. -/
theorem length_cohesivePairs_le {methods methods' : List MethodDecl}
    (aligned : List.Forall₂ (fun m m' => m.usedNames ⊆ m'.usedNames) methods methods') :
    (cohesivePairs methods).length ≤ (cohesivePairs methods').length := by
  induction aligned with
  | nil => exact Nat.le_refl 0
  | cons more rest ih =>
    rw [length_cohesivePairs_cons, length_cohesivePairs_cons]
    exact Nat.add_le_add (countP_shares_le more rest) ih

theorem length_cohesivePairs_map {f : MethodDecl → MethodDecl} {methods : List MethodDecl}
    (kept : ∀ a ∈ methods, ∀ b ∈ methods, shares (f a) (f b) = shares a b) :
    (cohesivePairs (methods.map f)).length = (cohesivePairs methods).length := by
  induction methods with
  | nil => rfl
  | cons a rest ih =>
    have first : (rest.map f).countP (shares (f a)) = rest.countP (shares a) := by
      rw [List.countP_map]
      refine List.countP_congr fun b member => ?_
      rw [Function.comp_apply, kept a List.mem_cons_self b (List.mem_cons_of_mem a member)]
    rw [List.map_cons, length_cohesivePairs_cons, length_cohesivePairs_cons, first, ih]
    intro b member c member'
    exact kept b (List.mem_cons_of_mem a member) c (List.mem_cons_of_mem a member')

/-- Between two groups that share no name there are no cohesive pairs. -/
theorem length_cohesivePairs_append {left right : List MethodDecl}
    (apart : ∀ a ∈ left, ∀ b ∈ right, ∀ name ∈ a.usedNames, name ∉ b.usedNames) :
    (cohesivePairs (left ++ right)).length =
      (cohesivePairs left).length + (cohesivePairs right).length := by
  induction left with
  | nil => exact (Nat.zero_add _).symm
  | cons a rest ih =>
    have across : right.countP (shares a) = 0 := by
      refine List.countP_eq_zero.mpr fun b member => ?_
      rw [shares_iff]
      rintro ⟨name, inFirst, inSecond⟩
      exact apart a List.mem_cons_self b member name inFirst inSecond
    rw [List.cons_append, length_cohesivePairs_cons, length_cohesivePairs_cons, List.countP_append,
      across, ih fun b member => apart b (List.mem_cons_of_mem a member), Nat.add_zero,
      Nat.add_assoc]

/-! ## The numerator -/

/-- The cohesive pairs of methods, constructors aside. -/
def cohesiveCount (methods : List MethodDecl) : Nat :=
  (cohesivePairs (methods.filter (!·.isConstructor))).length

theorem cohesiveCount_le {methods methods' : List MethodDecl}
    (aligned : List.Forall₂ (fun m m' => m.isConstructor = m'.isConstructor ∧
      m.usedNames ⊆ m'.usedNames) methods methods') :
    cohesiveCount methods ≤ cohesiveCount methods' := by
  have ordinaryAligned := List.rel_filter (p := (!·.isConstructor)) (q := (!·.isConstructor))
    (fun m m' related => by simp only [related.1]) aligned
  exact length_cohesivePairs_le (ordinaryAligned.imp fun _ _ related => related.2)

/-- The method with other words for the names it uses. -/
def renamed (rename : String → String) (m : MethodDecl) : MethodDecl :=
  { m with usedNames := m.usedNames.map rename }

theorem shares_renamed {rename : String → String} {used : Set String}
    (injective : used.InjOn rename) {a b : MethodDecl} (inFirst : ∀ name ∈ a.usedNames, name ∈ used)
    (inSecond : ∀ name ∈ b.usedNames, name ∈ used) :
    shares (renamed rename a) (renamed rename b) = shares a b := by
  rw [Bool.eq_iff_iff, shares_iff, shares_iff]
  constructor
  · rintro ⟨word, first, second⟩
    obtain ⟨name, uses, rfl⟩ := List.mem_map.mp first
    obtain ⟨name', uses', same⟩ := List.mem_map.mp second
    obtain rfl := injective (inSecond name' uses') (inFirst name uses) same
    exact ⟨name', uses, uses'⟩
  · rintro ⟨name, uses, uses'⟩
    exact ⟨rename name, List.mem_map_of_mem uses, List.mem_map_of_mem uses'⟩

/-- Tight cohesion divides the number of edges of the graph of methods by the number of pairs. With
at least two methods, constructors aside, there are twice as many ordered pairs of different
positions at which a common name is used as there are edges. The number of edges is the same with
more or fewer constructors, with names repeated or in another order, and with the names renamed
one-to-one; it does not decrease when methods use more names; and if the methods are in two groups
that share no name, there are no more edges than pairs inside the groups. -/
theorem cohesion_graph (v : ClassView) :
    (2 ≤ (ordinary v).length →
      tightCohesion v = .float (Double.ofQuotient (cohesiveCount v.methods)
        ((ordinary v).length * ((ordinary v).length - 1) / 2)).roundHundredths ∧
      2 * cohesiveCount v.methods = (sharingPositions (ordinary v)).card) ∧
    (∀ front back c, v.methods = front ++ back → c.isConstructor = true →
      cohesiveCount (front ++ c :: back) = cohesiveCount v.methods) ∧
    (∀ methods, List.Forall₂ (fun m m' => m.isConstructor = m'.isConstructor ∧
        ∀ name, name ∈ m.usedNames ↔ name ∈ m'.usedNames) v.methods methods →
      cohesiveCount methods = cohesiveCount v.methods) ∧
    (∀ rename : String → String, {name | ∃ m ∈ ordinary v, name ∈ m.usedNames}.InjOn rename →
      cohesiveCount (v.methods.map (renamed rename)) = cohesiveCount v.methods) ∧
    (∀ methods, List.Forall₂ (fun m m' => m.isConstructor = m'.isConstructor ∧
        m.usedNames ⊆ m'.usedNames) v.methods methods →
      cohesiveCount v.methods ≤ cohesiveCount methods) ∧
    ∀ left right, (ordinary v).Perm (left ++ right) →
      (∀ a ∈ left, ∀ b ∈ right, ∀ name ∈ a.usedNames, name ∉ b.usedNames) →
      cohesiveCount v.methods ≤
        left.length * (left.length - 1) / 2 + right.length * (right.length - 1) / 2 := by
  refine ⟨fun several => ⟨?_, (card_sharingPositions (ordinary v)).symm⟩,
    fun front back c given isConstructor => ?_, fun methods aligned => ?_,
    fun rename injective => ?_, fun methods => cohesiveCount_le, fun left right split apart => ?_⟩
  · unfold tightCohesion
    rw [if_neg (Nat.not_le_of_lt several)]
    rfl
  · simp only [cohesiveCount, given, List.filter_append, List.filter_cons, isConstructor]
    rfl
  · refine Nat.le_antisymm (cohesiveCount_le ?_) (cohesiveCount_le ?_)
    · exact aligned.flip.imp fun m m' related => ⟨related.1.symm, fun name => (related.2 name).mpr⟩
    · exact aligned.imp fun m m' related => ⟨related.1, fun name => (related.2 name).mp⟩
  · have kept : (v.methods.map (renamed rename)).filter (!·.isConstructor) =
        (ordinary v).map (renamed rename) := by
      rw [List.filter_map]
      rfl
    unfold cohesiveCount
    rw [kept]
    exact length_cohesivePairs_map fun a member b member' => shares_renamed injective
      (fun name uses => ⟨a, member, uses⟩) fun name uses => ⟨b, member', uses⟩
  · calc cohesiveCount v.methods = (cohesivePairs (left ++ right)).length :=
          length_cohesivePairs_of_perm split
      _ = (cohesivePairs left).length + (cohesivePairs right).length :=
          length_cohesivePairs_append apart
      _ ≤ _ := Nat.add_le_add (cohesivePairs_le left) (cohesivePairs_le right)

/-- A desk with drawers and a lamp that have nothing to do with each other. -/
def deskView : ClassView where
  methods := [{ name := "Desk", isConstructor := true, usedNames := ["drawer", "lamp"] },
    { name := "pull", usedNames := ["drawer", "drawer"] },
    { name := "push", usedNames := ["force", "drawer"] },
    { name := "light", usedNames := ["lamp"] },
    { name := "dim", usedNames := ["lamp", "level"] }]

/-- The two edges of the desk: the constructor joins nothing, and each half has one. -/
theorem desk_graph :
    2 ≤ (ordinary deskView).length ∧ cohesiveCount deskView.methods = 2 ∧
    tightCohesion deskView = .float (Double.ofQuotient 2 6).roundHundredths ∧
    (sharingPositions (ordinary deskView)).card = 4 ∧
    cohesiveCount deskView.methods ≤ 1 + 1 := by
  have several : 2 ≤ (ordinary deskView).length := by decide
  have edges : cohesiveCount deskView.methods = 2 := by decide
  obtain ⟨graph, _, _, _, _, groups⟩ := cohesion_graph deskView
  obtain ⟨value, twice⟩ := graph several
  rw [edges] at value twice
  exact ⟨several, edges, value, twice.symm, groups ((ordinary deskView).take 2)
    ((ordinary deskView).drop 2) (.of_eq rfl) (by decide)⟩

/-- A name in common with one of the lamps joins the two halves. -/
example :
    let pull : MethodDecl := { name := "pull", usedNames := ["drawer", "lamp"] }
    cohesiveCount (deskView.methods.set 1 pull) = 4 := by
  decide

end DesignGauge.Measure
