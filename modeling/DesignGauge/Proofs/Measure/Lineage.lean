import DesignGauge.Proofs.Measure.Ancestry
import Mathlib.Computability.StateTransition
import Mathlib.Data.Finset.Card
import Mathlib.Data.List.Chain

/-!
# The walk from parent to parent

Names may be declared several times, a class may be its own parent, and parents may form cycles of
any length. The walk still ends: each step reaches a name that was not reached before, and a name
that is not known has no way on. What the walk has reached at any time is a path of declared
parents, and where it ends the path cannot be continued.

Results:
1. `Walk.reaches_iff`: the walk reaches a state exactly if its names are a path of declared parents
   and the next parent is the one that the path leads to.
2. `Walk.mem_eval_iff`: the walk ends exactly with a path that cannot be continued.
3. `Walk.exists_mem_eval`: climbing with enough fuel is the walk to its end.
4. `IsPath.isPrefix`: every path is a first part of the ancestors.
5. `walk_ends_with_ancestors`: the walk from any class among any known classes ends, and the
   ancestors are the one lineage of the class.
-/

namespace DesignGauge.Measure

open StateTransition

/-! ## Paths of declared parents -/

/-- The parent that the first known class of a name declares. -/
def declared (known : List ClassDecl) (name : String) : Option String :=
  (classNamed known name).bind ClassDecl.parent

/-- The parent at the end of a path from a class. -/
def leadsTo (c : ClassDecl) (known : List ClassDecl) (chain : List String) : Option String :=
  chain.getLast?.elim c.parent (declared known)

/-- A path from a class does not go on to a parent: there is no name, or it is that of the class,
or it is on the path already. -/
def Ends (c : ClassDecl) (chain : List String) (parent : String) : Prop :=
  parent = "" ∨ parent = c.name ∨ parent ∈ chain

instance (c : ClassDecl) (chain : List String) (parent : String) :
    Decidable (Ends c chain parent) :=
  inferInstanceAs (Decidable (_ ∨ _ ∨ _))

/-- A path of declared parents that starts from a class and does not come back to it or to
itself. -/
structure IsPath (c : ClassDecl) (known : List ClassDecl) (chain : List String) : Prop where
  nodup : chain.Nodup
  own : c.name ∉ chain
  nameless : "" ∉ chain
  first : ∀ name ∈ chain.head?, c.parent = some name
  linked : chain.IsChain fun name parent => declared known name = some parent

/-- A path that takes up the parent of the class, and ends only where the last name is not known or
its first known class declares no parent to go on to. -/
structure IsLineage (c : ClassDecl) (known : List ClassDecl) (chain : List String) : Prop
    extends IsPath c known chain where
  starts : ∀ parent, c.parent = some parent → parent ≠ "" → parent ≠ c.name →
    chain.head? = some parent
  maximal : ∀ last ∈ chain.getLast?, ∀ parent, declared known last = some parent →
    Ends c chain parent

variable {c : ClassDecl} {known : List ClassDecl}

theorem isPath_nil : IsPath c known [] :=
  ⟨List.nodup_nil, List.not_mem_nil, List.not_mem_nil, by simp, .nil⟩

/-- A path goes on by one name exactly to the parent that it leads to. -/
theorem isPath_concat_iff {chain : List String} {name : String} :
    IsPath c known (chain ++ [name]) ↔
      IsPath c known chain ∧ leadsTo c known chain = some name ∧ ¬ Ends c chain name := by
  -- for an empty chain the new name is the first one, for any other it is linked to the last
  have goesOn : (∀ x ∈ (chain ++ [name]).head?, c.parent = some x) ∧
      (chain ++ [name]).IsChain (fun x y => declared known x = some y) ↔
      ((∀ x ∈ chain.head?, c.parent = some x) ∧
        chain.IsChain fun x y => declared known x = some y) ∧
      leadsTo c known chain = some name := by
    rcases List.eq_nil_or_concat chain with rfl | ⟨front, last, rfl⟩
    · simp [leadsTo]
    · rw [List.concat_eq_append, List.append_assoc, List.singleton_append,
        List.isChain_append_cons_cons]
      simp [leadsTo, and_assoc]
  constructor
  · rintro ⟨nodup, own, nameless, first, linked⟩
    obtain ⟨⟨first, linked⟩, leads⟩ := goesOn.mp ⟨first, linked⟩
    rw [List.nodup_append] at nodup
    rw [List.mem_append, not_or, List.mem_singleton] at own nameless
    refine ⟨⟨nodup.1, own.1, nameless.1, first, linked⟩, leads, ?_⟩
    rintro (empty | same | member)
    · exact nameless.2 empty.symm
    · exact own.2 same.symm
    · exact nodup.2.2 name member name List.mem_cons_self rfl
  · rintro ⟨⟨nodup, own, nameless, first, linked⟩, leads, goes⟩
    obtain ⟨first, linked⟩ := goesOn.mpr ⟨⟨first, linked⟩, leads⟩
    simp only [Ends, not_or] at goes
    obtain ⟨named, other, new⟩ := goes
    refine ⟨?_, ?_, ?_, first, linked⟩
    · exact List.nodup_append.mpr ⟨nodup, List.nodup_singleton name, fun x member y single => by
        obtain rfl := List.mem_singleton.mp single
        rintro rfl
        exact new member⟩
    · simp [own, Ne.symm other]
    · simp [nameless, Ne.symm named]

/-- A path is a lineage exactly if it does not go on to the parent that it leads to. -/
theorem isLineage_iff {chain : List String} :
    IsLineage c known chain ↔ IsPath c known chain ∧
      ∀ parent, leadsTo c known chain = some parent → Ends c chain parent := by
  constructor
  · intro lineage
    refine ⟨lineage.toIsPath, fun parent leads => ?_⟩
    cases ending : chain.getLast? with
    | some last =>
      rw [leadsTo, ending] at leads
      exact lineage.maximal last ending parent leads
    | none =>
      rw [leadsTo, ending] at leads
      obtain rfl := List.getLast?_eq_none_iff.mp ending
      by_contra goes
      simp only [Ends, not_or] at goes
      cases lineage.starts parent leads goes.1 goes.2.1
  · rintro ⟨path, stops⟩
    refine ⟨path, fun parent given named other => ?_, fun last ending parent given => ?_⟩
    · cases chain with
      | cons name rest => exact (path.first name rfl).symm.trans given
      | nil =>
        rcases stops parent given with empty | same | member
        · exact absurd empty named
        · exact absurd same other
        · cases member
    · refine stops parent ?_
      rw [leadsTo, ending]
      exact given

/-! ## The walk -/

/-- A walk on its way: the names reached, and the parent to go on to. -/
structure Walk where
  chain : List String
  next : Option String

namespace Walk

/-- The walk from a class, before the first step. -/
def start (c : ClassDecl) : Walk := ⟨[], c.parent⟩

/-- One step of the walk from a class. -/
def step? (c : ClassDecl) (known : List ClassDecl) (w : Walk) : Option Walk :=
  match w.next with
  | some parent =>
    if Ends c w.chain parent then none else some ⟨w.chain ++ [parent], declared known parent⟩
  | none => none

variable {w w' : Walk}

theorem step?_eq_some_iff :
    w.step? c known = some w' ↔ ∃ parent, w.next = some parent ∧ ¬ Ends c w.chain parent ∧
      w' = ⟨w.chain ++ [parent], declared known parent⟩ := by
  unfold step?
  cases w.next with
  | none => simp
  | some parent =>
    by_cases ends : Ends c w.chain parent
    · simp [ends]
    · simp [ends, eq_comm]

theorem step?_eq_none_iff :
    w.step? c known = none ↔ ∀ parent, w.next = some parent → Ends c w.chain parent := by
  unfold step?
  cases w.next with
  | none => simp
  | some parent => simp

/-- A step keeps the names reached a path, and the next parent the one that it leads to. -/
theorem step_isPath (step : w.step? c known = some w') (path : IsPath c known w.chain)
    (leads : w.next = leadsTo c known w.chain) :
    IsPath c known w'.chain ∧ w'.next = leadsTo c known w'.chain := by
  obtain ⟨parent, next, goes, rfl⟩ := step?_eq_some_iff.mp step
  exact ⟨isPath_concat_iff.mpr ⟨path, leads.symm.trans next, goes⟩, by simp [leadsTo]⟩

/-- Every path is reached. -/
theorem reaches_of_isPath {chain : List String} (path : IsPath c known chain) :
    Reaches (step? c known) (start c) ⟨chain, leadsTo c known chain⟩ := by
  -- the last name of a path is reached by a step from the names in front of it
  induction chain using List.reverseRecOn with
  | nil => exact .refl
  | append_singleton front name ih =>
    obtain ⟨front, leads, goes⟩ := isPath_concat_iff.mp path
    refine (ih front).tail (step?_eq_some_iff.mpr ⟨name, leads, goes, ?_⟩)
    simp [leadsTo]

/-- The walk reaches the paths, each with the parent that it leads to. -/
theorem reaches_iff :
    Reaches (step? c known) (start c) w ↔
      IsPath c known w.chain ∧ w.next = leadsTo c known w.chain := by
  constructor
  · intro run
    induction run with
    | refl => exact ⟨isPath_nil, rfl⟩
    | tail _ step ih => exact step_isPath step ih.1 ih.2
  · rintro ⟨path, leads⟩
    have state : w = ⟨w.chain, leadsTo c known w.chain⟩ := by rw [← leads]
    rw [state]
    exact reaches_of_isPath path

/-- The walk ends with the lineages. -/
theorem mem_eval_iff :
    w ∈ eval (step? c known) (start c) ↔
      IsLineage c known w.chain ∧ w.next = leadsTo c known w.chain := by
  rw [mem_eval, reaches_iff, step?_eq_none_iff, isLineage_iff]
  constructor
  · rintro ⟨⟨path, leads⟩, stops⟩
    exact ⟨⟨path, leads ▸ stops⟩, leads⟩
  · rintro ⟨⟨path, stops⟩, leads⟩
    exact ⟨⟨path, leads⟩, leads ▸ stops⟩

/-- What a walk has reached stays reached. -/
theorem chain_isPrefix (run : Reaches (step? c known) w w') : w.chain <+: w'.chain := by
  induction run with
  | refl => exact List.prefix_rfl
  | tail _ step ih =>
    obtain ⟨parent, _, _, rfl⟩ := step?_eq_some_iff.mp step
    exact ih.trans (List.prefix_append _ _)

/-! ## Climbing is walking to the end -/

/-- The names that a walk has seen, the last one first. -/
def seen (c : ClassDecl) (w : Walk) : List String := w.chain.reverse ++ [c.name]

theorem ends_iff {parent : String} :
    Ends c w.chain parent ↔ (parent.isEmpty || (w.seen c).contains parent) = true := by
  simp [Ends, seen, or_comm (a := parent = c.name)]

/-- With fuel for all classes of unseen names, climbing reaches the end of the walk. -/
theorem exists_mem_eval {fuel : Nat} (enough : (unseen known (w.seen c)).length < fuel) :
    ∃ w' ∈ eval (step? c known) w, w'.chain = w.chain ++ climb known fuel (w.seen c) w.next := by
  induction fuel generalizing w with
  | zero => exact absurd enough (Nat.not_lt_zero _)
  | succ fuel ih =>
    cases step : w.step? c known with
    | none =>
      refine ⟨w, mem_eval.mpr ⟨.refl, step⟩, ?_⟩
      cases next : w.next with
      | none => simp [climb]
      | some parent =>
        have ends := ends_iff.mp (step?_eq_none_iff.mp step parent next)
        rw [climb, if_pos ends, List.append_nil]
    | some w' =>
      obtain ⟨parent, next, goes, rfl⟩ := step?_eq_some_iff.mp step
      rw [ends_iff] at goes
      rw [reaches_eval (.single step), next, climb, if_neg goes]
      have seen : seen c ⟨w.chain ++ [parent], declared known parent⟩ = parent :: w.seen c := by
        simp [Walk.seen]
      cases found : classNamed known parent with
      | none =>
        -- the name is not known, and the walk has no next parent
        have none : declared known parent = none := by rw [declared, found]; rfl
        rw [none]
        exact ⟨_, mem_eval.mpr ⟨.refl, rfl⟩, rfl⟩
      | some ancestor =>
        have given : declared known parent = ancestor.parent := by rw [declared, found]; rfl
        have new : (w.seen c).contains parent = false := by
          rw [Bool.or_eq_true, not_or, Bool.not_eq_true, Bool.not_eq_true] at goes
          exact goes.2
        -- the step costs one unit of fuel and leaves at least one known class fewer unseen
        have fewer := length_unseen_lt found new
        obtain ⟨last, ended, chain⟩ := ih (w := ⟨w.chain ++ [parent], declared known parent⟩)
          (by rw [seen]; omega)
        refine ⟨last, ended, ?_⟩
        rw [chain, seen, given, List.append_assoc]
        rfl

end Walk

/-- The ancestors are what the walk from a class has reached at its end. -/
theorem ancestors_mem_eval (c : ClassDecl) (known : List ClassDecl) :
    ⟨ancestors c known, leadsTo c known (ancestors c known)⟩ ∈
      eval (Walk.step? c known) (Walk.start c) := by
  have enough : (unseen known ((Walk.start c).seen c)).length < known.length + 1 :=
    Nat.lt_succ_of_le (List.length_filter_le _ _)
  obtain ⟨w, ended, chain⟩ := Walk.exists_mem_eval enough
  have same : w.chain = ancestors c known := chain
  have leads := (Walk.mem_eval_iff.mp ended).2
  rw [same] at leads
  obtain rfl : w = ⟨ancestors c known, leadsTo c known (ancestors c known)⟩ := by
    rw [← leads, ← same]
  exact ended

/-- Every path is a first part of the ancestors. -/
theorem IsPath.isPrefix {chain : List String} (path : IsPath c known chain) :
    chain <+: ancestors c known := by
  have run := Walk.reaches_of_isPath path
  have ended := ancestors_mem_eval c known
  rw [reaches_eval run] at ended
  exact Walk.chain_isPrefix (mem_eval.mp ended).1

theorem isLineage_ancestors (c : ClassDecl) (known : List ClassDecl) :
    IsLineage c known (ancestors c known) :=
  (Walk.mem_eval_iff.mp (ancestors_mem_eval c known)).1

/-! ## The length of a path -/

theorem mem_names_of_declared {name parent : String} (given : declared known name = some parent) :
    name ∈ known.map ClassDecl.name := by
  obtain ⟨ancestor, found, _⟩ := Option.bind_eq_some_iff.mp given
  have named : ancestor.name = name := by simpa using List.find?_some found
  exact List.mem_map.mpr ⟨ancestor, List.mem_of_find?_eq_some found, named⟩

/-- All names of a path but the last are known. -/
theorem IsPath.mem_names_of_mem_dropLast {chain : List String} (path : IsPath c known chain)
    {name : String} (member : name ∈ chain.dropLast) : name ∈ known.map ClassDecl.name := by
  rcases List.eq_nil_or_concat chain with rfl | ⟨front, last, rfl⟩
  · cases member
  · rw [List.concat_eq_append, List.dropLast_concat] at member
    obtain ⟨before, between, rfl⟩ := List.append_of_mem member
    have linked := path.linked
    rw [List.concat_eq_append, List.append_assoc, List.cons_append, List.isChain_split] at linked
    have parents := linked.2.rel_head?
    cases between with
    | nil => exact mem_names_of_declared (parents rfl)
    | cons parent rest => exact mem_names_of_declared (parents rfl)

theorem IsPath.length_le {chain : List String} (path : IsPath c known chain) :
    chain.length ≤ ((known.map ClassDecl.name).toFinset.erase c.name).card + 1 := by
  have distinct : chain.dropLast.Nodup := chain.dropLast_sublist.nodup path.nodup
  have subset : chain.dropLast.toFinset ⊆ (known.map ClassDecl.name).toFinset.erase c.name := by
    intro name member
    rw [List.mem_toFinset] at member
    refine Finset.mem_erase.mpr ⟨?_, List.mem_toFinset.mpr (path.mem_names_of_mem_dropLast member)⟩
    rintro rfl
    exact path.own (List.mem_of_mem_dropLast member)
  have few := Finset.card_le_card subset
  rw [List.toFinset_card_of_nodup distinct, List.length_dropLast] at few
  omega

/-- The walk from any class among any known classes ends, and with the ancestors. These are the only
lineage of the class, and there is at most one more of them than other names are known. -/
theorem walk_ends_with_ancestors (c : ClassDecl) (known : List ClassDecl) :
    (∃ w ∈ eval (Walk.step? c known) (Walk.start c), w.chain = ancestors c known) ∧
    (∀ chain, IsLineage c known chain ↔ chain = ancestors c known) ∧
    (ancestors c known).length ≤ ((known.map ClassDecl.name).toFinset.erase c.name).card + 1 := by
  have ended := ancestors_mem_eval c known
  have lineage := isLineage_ancestors c known
  refine ⟨⟨_, ended, rfl⟩, fun chain => ⟨fun other => ?_, ?_⟩, lineage.length_le⟩
  · -- another lineage would be another end of the same walk
    have otherEnd : ⟨chain, leadsTo c known chain⟩ ∈ eval (Walk.step? c known) (Walk.start c) :=
      Walk.mem_eval_iff.mpr ⟨other, rfl⟩
    exact congrArg Walk.chain (Part.mem_unique otherEnd ended)
  · rintro rfl
    exact lineage

/-- A cycle that does not lead back to the class is cut where it closes. The second class of a name
is not looked at. -/
example :
    ancestors { name := "Pump", parent := some "Tank" }
      [{ name := "Tank", parent := some "Vessel" }, { name := "Vessel", parent := some "Tank" },
        { name := "Tank", parent := some "Pump" }] = ["Tank", "Vessel"] := by
  decide

end DesignGauge.Measure
