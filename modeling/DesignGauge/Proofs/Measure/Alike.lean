import DesignGauge.Measure.Catalogue
import DesignGauge.Proofs.Measure.Ancestry
import Mathlib.Data.List.Perm.Basic

/-!
# Views that no measure tells apart

A measure looks at methods without regard to their order, and at fields only in a few ways: their
names, their types, the types in front of the first field without one, how many are exposed, and
which type a name leads to. Two views that agree in all this have the same measures.

Results:
1. `length_eraseDups_congr`: the number of distinct texts depends on which ones there are.
2. `length_cohesivePairs_of_perm`: sharing names is symmetric, so that pairs may be turned round.
3. `RespectsAlike.of_mem`: all measures of all languages on views that are alike.
-/

namespace DesignGauge.Measure

/-- Two views agree in all that measures look at. -/
structure Alike (v v' : ClassView) : Prop where
  classes : v.classes = v'.classes
  methods : v.methods.Perm v'.methods
  names : (v.fields.map FieldDecl.name).Perm (v'.fields.map FieldDecl.name)
  types : (v.fields.map FieldDecl.type).Perm (v'.fields.map FieldDecl.type)
  /-- The types in front of the first field without one. -/
  scanned : ((typedFields v).map FieldDecl.type).Perm ((typedFields v').map FieldDecl.type)
  exposed : publicAttributes v = publicAttributes v'
  /-- Names lead to the same types. -/
  owners : ∀ current, ownerOf (foreignFields v.fields current) =
    ownerOf (foreignFields v'.fields current)

theorem Alike.refl (v : ClassView) : Alike v v :=
  ⟨rfl, .refl _, .refl _, .refl _, .refl _, rfl, fun _ => rfl⟩

/-- The scan for types reads nothing but types. -/
theorem map_type_typedFields (v : ClassView) : (typedFields v).map FieldDecl.type =
    (v.fields.map FieldDecl.type).takeWhile (!·.isEmpty) := by
  rw [typedFields, List.takeWhile_map]
  rfl

/-! ## Distinct texts -/

theorem nodup_eraseDups {α : Type} [BEq α] [LawfulBEq α] : (l : List α) → l.eraseDups.Nodup
  | [] => List.nodup_nil
  | a :: rest => by
    rw [List.eraseDups_cons, List.nodup_cons]
    refine ⟨?_, nodup_eraseDups _⟩
    simp [List.mem_eraseDups]
termination_by l => l.length
decreasing_by exact Nat.lt_succ_of_le (List.length_filter_le _ _)

/-- The number of distinct members depends on which ones there are, not on how often or where. -/
theorem length_eraseDups_congr {α : Type} [BEq α] [LawfulBEq α] {l l' : List α}
    (same : ∀ a, a ∈ l ↔ a ∈ l') : l.eraseDups.length = l'.eraseDups.length := by
  have both : l.eraseDups.Perm l'.eraseDups := by
    refine (List.perm_ext_iff_of_nodup (nodup_eraseDups l) (nodup_eraseDups l')).mpr fun a => ?_
    rw [List.mem_eraseDups, List.mem_eraseDups, same a]
  exact both.length_eq

/-! ## Pairs -/

theorem shares_comm (a b : MethodDecl) : shares a b = shares b a := by
  rw [Bool.eq_iff_iff, shares, shares, List.any_eq_true, List.any_eq_true]
  simp only [List.contains_iff_mem, and_comm]

/-- The cohesive pairs with a further method: those in which it takes part and the old ones. -/
theorem length_cohesivePairs_cons (a : MethodDecl) (rest : List MethodDecl) :
    (cohesivePairs (a :: rest)).length = rest.countP (shares a) + (cohesivePairs rest).length := by
  unfold cohesivePairs
  rw [pairs, List.filter_append, List.length_append, List.filter_map, List.length_map,
    List.countP_eq_length_filter]
  rfl

theorem length_cohesivePairs_of_perm {methods methods' : List MethodDecl}
    (same : methods.Perm methods') :
    (cohesivePairs methods).length = (cohesivePairs methods').length := by
  induction same with
  | nil => rfl
  | cons a rest ih =>
    rw [length_cohesivePairs_cons, length_cohesivePairs_cons, rest.countP_eq, ih]
  | swap a b rest =>
    -- both orders count the pair of the two methods, and the pairs of each with the rest
    rw [length_cohesivePairs_cons, length_cohesivePairs_cons, length_cohesivePairs_cons,
      length_cohesivePairs_cons, List.countP_cons, List.countP_cons, shares_comm b a]
    omega
  | trans _ _ ih ih' => exact ih.trans ih'

/-! ## Measures of views that are alike -/

namespace Alike

variable {v v' : ClassView}

theorem primary?_eq (h : Alike v v') : v.primary? = v'.primary? := congrArg List.head? h.classes

theorem className?_eq (h : Alike v v') : v.className? = v'.className? :=
  congrArg (Option.map ClassDecl.name) h.primary?_eq

theorem child?_eq (h : Alike v v') : child? v = child? v' := by
  unfold child?
  rw [h.primary?_eq]

/-- The names of abstract methods are the same, whichever method comes first. -/
theorem concrete_perm (h : Alike v v') : (concrete v).Perm (concrete v') := by
  have names : ∀ name, (abstractNames v.methods v.primary?).contains name =
      (abstractNames v'.methods v'.primary?).contains name := by
    intro name
    have same : (abstractNames v.methods v.primary?).Perm
        (abstractNames v'.methods v'.primary?) := by
      unfold abstractNames abstractIn
      rw [h.primary?_eq]
      split
      · exact (h.methods.filter _).map _
      · exact .refl _
    exact same.contains_eq
  unfold concrete
  simp only [names]
  exact h.methods.filter _

theorem weightedMethods_eq (h : Alike v v') : weightedMethods v = weightedMethods v' :=
  (h.concrete_perm.map _).sum_nat

theorem cyclomatic_eq (h : Alike v v') : cyclomatic v = cyclomatic v' := (h.methods.map _).sum_nat

theorem meanWeight_eq (h : Alike v v') : meanWeight v = meanWeight v' := by
  unfold meanWeight
  rw [h.concrete_perm.isEmpty_eq, h.weightedMethods_eq, h.concrete_perm.length_eq]

theorem publicMethods_perm (h : Alike v v') : (publicMethods v).Perm (publicMethods v') :=
  h.methods.filter _

theorem classWeight_eq (h : Alike v v') : classWeight v = classWeight v' := by
  unfold classWeight faceSize dataFaceSize
  rw [h.publicMethods_perm.length_eq, h.publicMethods_perm.countP_eq, h.exposed]

theorem addedServices_perm (h : Alike v v') : (addedServices v).Perm (addedServices v') := by
  unfold addedServices
  rw [h.child?_eq]
  split
  · exact (h.publicMethods_perm.filter _).filter _
  · exact .refl _

theorem addedShare_eq (h : Alike v v') : addedShare v = addedShare v' := by
  unfold addedShare addedServiceCount
  rw [h.addedServices_perm.isEmpty_eq, h.publicMethods_perm.isEmpty_eq,
    h.addedServices_perm.length_eq, h.publicMethods_perm.length_eq]

theorem tightCohesion_eq (h : Alike v v') : tightCohesion v = tightCohesion v' := by
  have ordinary : (ordinary v).Perm (ordinary v') := h.methods.filter _
  unfold tightCohesion cohesion
  rw [ordinary.length_eq, length_cohesivePairs_of_perm ordinary]

theorem ownerOf_foreignIn (h : Alike v v') : ownerOf (foreignIn v) = ownerOf (foreignIn v') := by
  unfold foreignIn
  rw [h.className?_eq]
  split
  · split
    · rfl
    · exact h.owners _
  · rfl

theorem reachedBy_eq (h : Alike v v') : reachedBy (foreignIn v) = reachedBy (foreignIn v') := by
  unfold reachedBy
  rw [h.ownerOf_foreignIn]

theorem reachedByCall_eq (h : Alike v v') :
    reachedByCall (foreignIn v) = reachedByCall (foreignIn v') := by
  unfold reachedByCall
  rw [h.ownerOf_foreignIn]

theorem dataProviders_eq (h : Alike v v') : dataProviders v = dataProviders v' := by
  unfold dataProviders providers
  rw [h.reachedBy_eq]
  exact length_eraseDups_congr fun _ => (h.methods.flatMap_right _).mem_iff

theorem foreignAccess_eq (h : Alike v v') : foreignAccess v = foreignAccess v' := by
  have working : (working v).Perm (working v') := h.methods.filter _
  unfold foreignAccess accessed
  rw [h.reachedBy_eq, h.reachedByCall_eq]
  exact length_eraseDups_congr fun _ => (working.flatMap_right _).mem_iff

theorem length_abstractions_eq (h : Alike v v') :
    (abstractions v).length = (abstractions v').length :=
  length_eraseDups_congr fun _ => (h.scanned.filter _).mem_iff

theorem length_coupled_eq (h : Alike v v') : (coupled v).length = (coupled v').length := by
  have texts : (typeTexts v).Perm (typeTexts v') :=
    (h.types.filter _).append (h.methods.flatMap_right _)
  unfold coupled
  rw [h.className?_eq]
  exact length_eraseDups_congr fun _ => ((texts.flatMap_right _).filter _).mem_iff

theorem attributes_eq (h : Alike v v') : attributes v = attributes v' := by
  have counted := h.names.length_eq
  rwa [List.length_map, List.length_map] at counted

theorem openAttributes_eq (h : Alike v v') : openAttributes v = openAttributes v' := by
  have counted := h.names.countP_eq (!isMangled ·)
  rwa [List.countP_map, List.countP_map] at counted

end Alike

/-! ## The catalogue -/

/-- A measure has the same value on views that are alike, under the same node. The store may differ,
unless the measure is that of depth: for it each name has to lead to the same class first. -/
def RespectsAlike (m : Measure) : Prop :=
  ∀ e e' : Evidence, e.node = e'.node → Alike e.view e'.view →
    (m.metric = .dit → SameFirst e.known e'.known) → m.value e = m.value e'

namespace RespectsAlike

theorem counting (metric : Metric) {count : ClassView → Nat}
    (same : ∀ {v v' : ClassView}, Alike v v' → count v = count v')
    (trace : ClassView → List String) : (counting metric count trace).RespectsAlike := by
  intro e e' _ views _
  exact congrArg (fun n => Except.ok (Number.ofNat n)) (same views)

theorem rating (metric : Metric) {rate : ClassView → Number}
    (same : ∀ {v v' : ClassView}, Alike v v' → rate v = rate v')
    (trace : ClassView → List String) : (rating metric rate trace).RespectsAlike := by
  intro e e' _ views _
  exact congrArg Except.ok (same views)

theorem lines (trace : Evidence → List String) : (Measure.mk .loc lines trace).RespectsAlike := by
  intro e e' nodes views _
  have spans : spanIn e = spanIn e' := by
    unfold spanIn
    rw [nodes, views.primary?_eq]
  simp only [Measure.lines, spans]

theorem depth (trace : Evidence → List String) :
    (Measure.mk .dit (fun e => .ok (.ofNat (depth e))) trace).RespectsAlike := by
  intro e e' _ views known
  exact congrArg (fun n => Except.ok (Number.ofNat n)) (depth_congr views.classes (known rfl))

/-- Every measure of every language has the same value on views that are alike. -/
theorem of_mem {language : Language} {m : Measure} (member : m ∈ ofLanguage language) :
    m.RespectsAlike := by
  revert m
  cases language with
  | java =>
    simp only [ofLanguage, java, List.forall_mem_cons]
    exact ⟨lines _, fun _ _ _ views _ => views.meanWeight_eq, counting _ Alike.length_coupled_eq _,
      counting _ Alike.dataProviders_eq _, counting _ Alike.length_abstractions_eq _,
      counting _ Alike.weightedMethods_eq _, rating _ Alike.classWeight_eq _,
      counting _ Alike.attributes_eq _, counting _ (fun h => h.methods.countP_eq _) _,
      counting _ (fun h => h.methods.countP_eq _) _, counting _ Alike.exposed _,
      counting _ (fun h => h.methods.countP_eq _) _, counting _ (fun h => h.methods.countP_eq _) _,
      counting _ (fun h => h.addedServices_perm.length_eq) _, rating _ Alike.addedShare_eq _,
      rating _ Alike.tightCohesion_eq _, depth _, counting _ Alike.foreignAccess_eq _,
      fun _ member => nomatch member⟩
  | python =>
    simp only [ofLanguage, python, List.forall_mem_cons]
    exact ⟨lines _, counting _ Alike.cyclomatic_eq _, counting _ Alike.openAttributes_eq _,
      counting _ (fun h => h.methods.countP_eq _) _, counting _ (fun h => h.methods.countP_eq _) _,
      fun _ member => nomatch member⟩

end RespectsAlike

end DesignGauge.Measure
