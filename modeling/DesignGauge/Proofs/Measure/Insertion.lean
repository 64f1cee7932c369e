import DesignGauge.Proofs.Measure.Contribution
import DesignGauge.Proofs.Measure.Regrouping
import DesignGauge.Proofs.Measure.VariableArity
import Mathlib.Algebra.Order.BigOperators.Group.List
import Mathlib.Algebra.Order.Group.Nat
import Mathlib.Data.List.Flatten

/-!
# Adding a method

A method more is counted more, and what it mentions or reaches comes to what the others do. It hides
nothing: counts only grow, but for the weight of an abstract class, where a method can take others
of its name out. The flags of the fields beside it are computed anew, which no measure sees.

Results:
1. `FileComponents.read_write_reflagged`: components are read back with all flags computed.
2. `Enlarged.of_withMethod`: what a further method in one group makes of the view of a file.
3. `FollowsTrend.of_mem`: all measures of all languages under further methods.
4. `take_put_withMethod`: all measures of all files after a method was added to one of them.
-/

namespace DesignGauge

open Wire

/-! ## A method at a place -/

/-- The group with a method at a position. The flags of its fields stay as they are. -/
def DeclGroup.withMethod (g : DeclGroup) (position : Nat) (added : MethodDecl) : DeclGroup :=
  { g with methods := g.methods.insertIdx position added }

/-- The group with its flags computed. -/
def DeclGroup.reflagged (g : DeclGroup) : DeclGroup :=
  .make g.fileName g.name g.classes g.methods g.fields

namespace FileComponents

/-- The components with a method at a position of one group. -/
def withMethod (c : FileComponents) (group position : Nat) (added : MethodDecl) : FileComponents :=
  ⟨c.groups.modify group (·.withMethod position added)⟩

/-- The components with all flags computed. -/
def reflagged (c : FileComponents) : FileComponents := ⟨c.groups.map DeclGroup.reflagged⟩

theorem flagged_reflagged (c : FileComponents) : c.reflagged.Flagged := by
  intro g present
  obtain ⟨_, _, rfl⟩ := List.mem_map.mp present
  exact DeclGroup.flagged_make ..

theorem classes_reflagged (c : FileComponents) : c.reflagged.classes = c.classes :=
  List.flatMap_map ..

theorem methods_reflagged (c : FileComponents) : c.reflagged.methods = c.methods :=
  List.flatMap_map ..

theorem unflagged_fields_reflagged (c : FileComponents) :
    c.reflagged.fields.map FieldDecl.unflagged = c.fields.map FieldDecl.unflagged := by
  unfold fields reflagged
  rw [List.flatMap_map, List.map_flatMap, List.map_flatMap]
  refine List.flatMap_congr fun g _ => ?_
  simp only [DeclGroup.reflagged, DeclGroup.make, List.map_map]
  rfl

/-- Components are read back with all flags computed, whatever flags they had. -/
theorem read_write_reflagged (c : FileComponents) : read c.write = .fits c.reflagged := by
  have groups : list DeclGroup.read (.list (c.groups.map DeclGroup.write)) =
      .fits (c.groups.map DeclGroup.reflagged) :=
    itemsFrom_map (fun g _ => g.read_write) 0
  simp [read, write, record_ofFields, member_written, groups, reflagged]

theorem flatMap_modify_of_eq {α : Type} {look : DeclGroup → List α} {change : DeclGroup → DeclGroup}
    (groups : List DeclGroup) (group : Nat) (same : ∀ g, look (change g) = look g) :
    (groups.modify group change).flatMap look = groups.flatMap look := by
  induction groups generalizing group with
  | nil => rw [List.modify_nil]
  | cons g rest ih =>
    cases group with
    | zero => rw [List.modify_zero_cons, List.flatMap_cons, List.flatMap_cons, same]
    | succ group => rw [List.modify_succ_cons, List.flatMap_cons, List.flatMap_cons, ih]

variable (c : FileComponents) (group position : Nat) (added : MethodDecl)

theorem classes_withMethod : (c.withMethod group position added).classes = c.classes :=
  flatMap_modify_of_eq _ _ fun _ => rfl

theorem fields_withMethod : (c.withMethod group position added).fields = c.fields :=
  flatMap_modify_of_eq _ _ fun _ => rfl

theorem methods_sublist_withMethod :
    c.methods.Sublist (c.withMethod group position added).methods := by
  unfold methods withMethod
  generalize c.groups = groups
  induction groups generalizing group with
  | nil => exact List.nil_sublist _
  | cons g rest ih =>
    cases group with
    | zero =>
      rw [List.modify_zero_cons, List.flatMap_cons, List.flatMap_cons]
      exact (List.sublist_insertIdx ..).append_right _
    | succ group =>
      rw [List.modify_succ_cons, List.flatMap_cons, List.flatMap_cons]
      exact (ih group).append_left _

end FileComponents

namespace Measure

/-! ## Views with more methods -/

/-- A view has further methods, and otherwise what measures look at is the same. -/
structure Enlarged (v v' : ClassView) : Prop where
  methods : v.methods.Sublist v'.methods
  rest : Alike { v with methods := v'.methods } v'

theorem Enlarged.refl (v : ClassView) : Enlarged v v := ⟨.refl _, .refl _⟩

/-- The view of components that were read, and of what is read with a further method in a group. -/
theorem Enlarged.of_withMethod {c : FileComponents} (flagged : c.Flagged) (group position : Nat)
    (added : MethodDecl) :
    Enlarged (.ofComponents c) (.ofComponents (c.withMethod group position added).reflagged) := by
  have classes : c.classes = (c.withMethod group position added).reflagged.classes := by
    rw [FileComponents.classes_reflagged, FileComponents.classes_withMethod]
  have fields : c.fields.map FieldDecl.unflagged =
      (c.withMethod group position added).reflagged.fields.map FieldDecl.unflagged := by
    rw [FileComponents.unflagged_fields_reflagged, FileComponents.fields_withMethod]
  constructor
  · show c.methods.Sublist (c.withMethod group position added).reflagged.methods
    rw [FileComponents.methods_reflagged]
    exact c.methods_sublist_withMethod group position added
  · -- whether a field is exposed does not depend on methods once its flag is there
    exact alike_of_unflagged classes (.refl _) fields
      (publicAttributes_congr flagged (FileComponents.flagged_reflagged _) fields)

variable {v : ClassView} {more : List MethodDecl}

theorem addedServiceCount_le_of_sublist (sublist : v.methods.Sublist more) :
    addedServiceCount v ≤ addedServiceCount { v with methods := more } := by
  have child : child? { v with methods := more } = child? v := rfl
  unfold addedServiceCount addedServices
  rw [child]
  split
  · exact (((sublist.filter _).filter _).filter _).length_le
  · exact Nat.le_refl _

theorem length_coupled_le_of_sublist (sublist : v.methods.Sublist more) :
    (coupled v).length ≤ (coupled { v with methods := more }).length := by
  refine length_coupled_le fun name found => ?_
  obtain ⟨⟨text, present, mentions⟩, counts⟩ := mem_coupled.mp found
  refine mem_coupled.mpr ⟨⟨text, ?_, mentions⟩, counts⟩
  rcases List.mem_append.mp present with ofField | ofMethod
  · exact List.mem_append_left _ ofField
  · exact List.mem_append_right _ ((sublist.flatMap _).mem ofMethod)

/-- The distinct texts that some methods lead to come to be more with further methods. -/
theorem length_eraseDups_flatMap_le {α β : Type} [BEq β] [LawfulBEq β] {l l' : List α}
    (sublist : l.Sublist l') (reached : α → List β) :
    (l.flatMap reached).eraseDups.length ≤ (l'.flatMap reached).eraseDups.length := by
  refine (List.subperm_of_subset (nodup_eraseDups _) fun text found => ?_).length_le
  rw [List.mem_eraseDups] at found ⊢
  exact (sublist.flatMap reached).mem found

theorem dataProviders_le_of_sublist (sublist : v.methods.Sublist more) :
    dataProviders v ≤ dataProviders { v with methods := more } :=
  length_eraseDups_flatMap_le sublist _

theorem foreignAccess_le_of_sublist (sublist : v.methods.Sublist more) :
    foreignAccess v ≤ foreignAccess { v with methods := more } :=
  length_eraseDups_flatMap_le (sublist.filter _) _

theorem sum_weights_le {methods : List MethodDecl} (sublist : methods.Sublist more)
    (weigh : MethodDecl → Nat) : (methods.map weigh).sum ≤ (more.map weigh).sum :=
  (sublist.map weigh).sum_le_sum fun _ _ => Nat.zero_le _

theorem cyclomatic_le_of_sublist (sublist : v.methods.Sublist more) :
    cyclomatic v ≤ cyclomatic { v with methods := more } :=
  sum_weights_le sublist _

/-- Where no method is taken out, the weight grows with every method. -/
theorem weightedMethods_le_of_sublist (notAbstract : isAbstractClass v.primary? = false)
    (sublist : v.methods.Sublist more) :
    weightedMethods v ≤ weightedMethods { v with methods := more } := by
  have kept : isAbstractClass { v with methods := more }.primary? = false := notAbstract
  rw [weightedMethods_eq_sum, weightedMethods_eq_sum, filter_contributes_of_concrete notAbstract,
    filter_contributes_of_concrete kept]
  exact sum_weights_le sublist _

/-! ## The catalogue -/

/-- What becomes of the value of a metric when methods are added. -/
inductive Trend where
  | kept
  | grows
  | growsUnlessAbstract
  | free
  deriving DecidableEq, Repr

/-- Two counts, of which the second is no smaller. -/
def Grows (before after : Except Fault Number) : Prop :=
  ∃ n n' : Nat, before = .ok (.ofNat n) ∧ after = .ok (.ofNat n') ∧ n ≤ n'

/-- A trend allows the second of two values after the first, given the primary class. -/
def Trend.Allows (primary : Option ClassDecl) (before after : Except Fault Number) : Trend → Prop
  | .kept => before = after
  | .grows => Grows before after
  | .growsUnlessAbstract => (∀ c ∈ primary, c.isAbstract = false) → Grows before after
  | .free => True

/-- The trend of each metric. Means and shares can go either way. -/
def trend : Metric → Trend
  | .loc | .noa | .nopa | .dac | .dit => .kept
  | .nom | .noam | .nabsm | .nprotm | .nas | .cbo | .fdp | .atfd | .cc => .grows
  | .wmc => .growsUnlessAbstract
  | .amw | .woc | .pnas | .tcc => .free

/-- The evidence with other methods in view. -/
def seeing (e : Evidence) (methods : List MethodDecl) : Evidence :=
  { e with view := { e.view with methods := methods } }

/-- The values of a measure follow the trend of its metric when methods are added. -/
def FollowsTrend (m : Measure) : Prop :=
  ∀ (e : Evidence) (more : List MethodDecl), e.view.methods.Sublist more →
    (trend m.metric).Allows e.view.primary? (m.value e) (m.value (seeing e more))

namespace FollowsTrend

theorem of_grows {metric : Metric} (grows : trend metric = .grows) {count : ClassView → Nat}
    {trace : ClassView → List String}
    (le : ∀ {v : ClassView} {more : List MethodDecl}, v.methods.Sublist more →
      count v ≤ count { v with methods := more }) : (counting metric count trace).FollowsTrend := by
  intro e more sublist
  show (trend metric).Allows _ _ _
  rw [grows]
  exact ⟨_, _, rfl, rfl, le sublist⟩

theorem of_countP {metric : Metric} (grows : trend metric = .grows) {p : MethodDecl → Bool}
    {trace : ClassView → List String} :
    (counting metric (·.methods.countP p) trace).FollowsTrend :=
  of_grows grows fun sublist => sublist.countP_le

theorem wmc (trace : ClassView → List String) :
    (counting .wmc weightedMethods trace).FollowsTrend := by
  intro e more sublist notAbstract
  have concreteClass : isAbstractClass e.view.primary? = false := by
    rw [← Bool.not_eq_true, isAbstractClass_iff]
    rintro ⟨c, primary, isAbstract⟩
    rw [notAbstract c primary] at isAbstract
    cases isAbstract
  exact ⟨_, _, rfl, rfl, weightedMethods_le_of_sublist concreteClass sublist⟩

/-- Every measure of every language follows the trend of its metric. -/
theorem of_mem {language : Language} {m : Measure} (member : m ∈ ofLanguage language) :
    m.FollowsTrend := by
  revert m
  cases language with
  | java =>
    simp only [ofLanguage, java, List.forall_mem_cons]
    exact ⟨fun _ _ _ => rfl, fun _ _ _ => trivial, of_grows rfl length_coupled_le_of_sublist,
      of_grows rfl dataProviders_le_of_sublist, fun _ _ _ => rfl, wmc _, fun _ _ _ => trivial,
      fun _ _ _ => rfl, of_countP rfl, of_countP rfl, fun _ _ _ => rfl, of_countP rfl,
      of_countP rfl, of_grows rfl addedServiceCount_le_of_sublist, fun _ _ _ => trivial,
      fun _ _ _ => trivial, fun _ _ _ => rfl, of_grows rfl foreignAccess_le_of_sublist,
      List.forall_mem_nil _⟩
  | python =>
    simp only [ofLanguage, python, List.forall_mem_cons]
    exact ⟨fun _ _ _ => rfl, of_grows rfl cyclomatic_le_of_sublist, fun _ _ _ => rfl, of_countP rfl,
      of_countP rfl, List.forall_mem_nil _⟩

end FollowsTrend

/-- A method added to one group of components that were read, at any position, makes components that
are read again. Whatever the store, the path and the syntax node, every measure of every file
follows the trend of its metric from the first components put to the second: methods, accessors,
abstract and protected methods, added services, coupled types, data providers, foreign data and
decisions never decrease, nor does the weight of a class that is not abstract, and lines, fields,
exposed fields, abstractions and depth stay as they are. -/
theorem take_put_withMethod {value : Datum} {c : FileComponents}
    (fits : FileComponents.read value = .fits c) (group position : Nat) (added : MethodDecl) :
    ∃ c', FileComponents.read (c.withMethod group position added).write = .fits c' ∧
      ∀ (language : Language) (m : Measure), m ∈ ofLanguage language →
        ∀ (node : Datum) (s : Store) (path file : String),
          (trend m.metric).Allows (viewOf (some (s.put path c)) file).primary?
            (m.take node (some (s.put path c)) file) (m.take node (some (s.put path c')) file) := by
  refine ⟨_, FileComponents.read_write_reflagged _, fun language m member node s path file => ?_⟩
  have enlarged := Enlarged.of_withMethod (FileComponents.flagged_of_read fits) group position added
  generalize (c.withMethod group position added).reflagged = c' at enlarged ⊢
  have views : Enlarged (viewOf (some (s.put path c)) file)
      (viewOf (some (s.put path c')) file) := by
    rcases s.viewOf_put_cases path file c c' with equal | ⟨shown, shown'⟩
    · rw [equal]
      exact .refl _
    · rw [shown, shown']
      exact enlarged
  have known : (s.put path c).classes = (s.put path c').classes :=
    s.classes_put_congr path enlarged.rest.classes
  -- the methods alone are exchanged first, and then what no measure sees
  have exchanged := FollowsTrend.of_mem member (evidence node (some (s.put path c)) file) _
    views.methods
  have same : m.value (seeing (evidence node (some (s.put path c)) file)
      (viewOf (some (s.put path c')) file).methods) =
      m.take node (some (s.put path c')) file :=
    RespectsAlike.of_mem member _ _ rfl views.rest fun _ name =>
      congrArg (classNamed · name) known
  rwa [same] at exchanged

/-- A gauge with a level that nothing gives out. -/
def gaugeComponents : FileComponents :=
  ⟨[{ classes := [{ name := "Gauge" }]
      methods := [{ name := "show", fieldAccess := ["tank.name"] }]
      fields := [{ name := "level", modifiers := "private" },
        { name := "tank", type := "Tank" }] }]⟩

/-- A getter of the level, which reads it off a valve. -/
def levelGetter : MethodDecl :=
  { name := "getLevel", localTypes := ["Valve"], bodyTags := ["if_statement"] }

/-- With the getter in front, the gauge has another flag, is coupled to no fewer types and weighs no
less, and exposes what it did. -/
theorem gauge_gains :
    FileComponents.read gaugeComponents.write = .fits gaugeComponents ∧
    ∃ c', FileComponents.read (gaugeComponents.withMethod 0 0 levelGetter).write = .fits c' ∧
      c'.fields ≠ gaugeComponents.fields ∧
      Grows
        ((counting .cbo (fun v => (coupled v).length) coupledTrace).take .null
          (some (Store.empty.put "Gauge.java" gaugeComponents)) "Gauge.java")
        ((counting .cbo (fun v => (coupled v).length) coupledTrace).take .null
          (some (Store.empty.put "Gauge.java" c')) "Gauge.java") ∧
      Grows
        ((counting .wmc weightedMethods weightedMethodsTrace).take .null
          (some (Store.empty.put "Gauge.java" gaugeComponents)) "Gauge.java")
        ((counting .wmc weightedMethods weightedMethodsTrace).take .null
          (some (Store.empty.put "Gauge.java" c')) "Gauge.java") ∧
      (counting .nopa publicAttributes publicAttributesTrace).take .null
          (some (Store.empty.put "Gauge.java" gaugeComponents)) "Gauge.java" =
        (counting .nopa publicAttributes publicAttributesTrace).take .null
          (some (Store.empty.put "Gauge.java" c')) "Gauge.java" := by
  have fits : FileComponents.read gaugeComponents.write = .fits gaugeComponents :=
    FileComponents.read_write_of_flagged (by decide +kernel)
  obtain ⟨c', fits', follows⟩ := take_put_withMethod fits 0 0 levelGetter
  have changed : c'.fields ≠ gaugeComponents.fields := by
    rw [FileComponents.read_write_reflagged, Checked.fits.injEq] at fits'
    rw [← fits']
    decide +kernel
  have concreteClass : ∀ c ∈ (viewOf (some (Store.empty.put "Gauge.java" gaugeComponents))
      "Gauge.java").primary?, c.isAbstract = false := by
    decide +kernel
  refine ⟨fits, c', fits', changed, ?_, ?_, ?_⟩
  · exact follows .java (counting .cbo (fun v => (coupled v).length) coupledTrace)
      (List.mem_of_find?_eq_some (p := (·.metric == .cbo)) rfl) .null Store.empty _ _
  · exact follows .java (counting .wmc weightedMethods weightedMethodsTrace)
      (List.mem_of_find?_eq_some (p := (·.metric == .wmc)) rfl) .null Store.empty _ _ concreteClass
  · exact follows .java (counting .nopa publicAttributes publicAttributesTrace)
      (List.mem_of_find?_eq_some (p := (·.metric == .nopa)) rfl) .null Store.empty _ _

/-- An abstract class can lose weight: a method without a body takes its namesake out. -/
example :
    let shape : ClassView :=
      { classes := [{ isAbstract := true }], methods := [{ name := "area", bodyTags := ["case"] }] }
    weightedMethods shape = 2 ∧
      weightedMethods { shape with methods := shape.methods ++ [{ name := "area" }] } = 0 := by
  decide +kernel

end Measure

end DesignGauge
