import DesignGauge.Measure.Count

/-!
# Weights of methods

A method weighs one, and one more for every decision in its body. In an abstract class the
methods whose name belongs to an abstract method are left out: every overload of such a name.
-/

namespace DesignGauge.Measure

/-- The statement kinds that decide something. -/
def decisionTags : List String := [
  "if_statement", "for_statement", "while_statement", "do_statement", "switch_statement", "case",
  "catch_clause", "condition", "ternary_expression", "logical_expression"]

/-- The statement kinds of Python that decide something. -/
def pythonDecisionTags : List String := [
  "if_statement", "elif_clause", "for_statement", "while_statement", "except_clause",
  "conditional_expression", "boolean_operator", "case_clause", "for_in_clause", "if_clause"]

/-- One more than the decisions in the body. -/
def weight (tags : List String) (m : MethodDecl) : Nat :=
  1 + m.bodyTags.countP tags.contains

/-- In an abstract class: declared abstract, or without a body though neither constructor nor
accessor. -/
def countsAsAbstract (m : MethodDecl) : Bool :=
  m.isAbstract || saysAbstract m.modifiers
    || (m.bodyTags.isEmpty && !m.isConstructor && !m.isAccessor)

/-- The class is there and abstract. -/
def isAbstractClass : Option ClassDecl → Bool
  | some c => c.isAbstract
  | none => false

/-- The methods that count as abstract beside a class. -/
def abstractIn (methods : List MethodDecl) (owner : Option ClassDecl) : List MethodDecl :=
  if isAbstractClass owner then methods.filter countsAsAbstract else []

/-- The names of the methods that count as abstract. -/
def abstractNames (methods : List MethodDecl) (owner : Option ClassDecl) : List String :=
  (abstractIn methods owner).map MethodDecl.name

/-- The methods whose name is not that of an abstract one. -/
def concrete (v : ClassView) : List MethodDecl :=
  v.methods.filter fun m => !(abstractNames v.methods v.primary?).contains m.name

/-- WMC: the weight of the concrete methods. -/
def weightedMethods (v : ClassView) : Nat :=
  ((concrete v).map (weight decisionTags)).foldr (· + ·) 0

/-- AMW: the mean weight of the concrete methods to two places, 0 without any. -/
def meanWeight (v : ClassView) : Except Fault Number :=
  if (concrete v).isEmpty then .ok (.int 0)
  else match Double.ofQuotient? (weightedMethods v) (concrete v).length with
    | some mean => .ok (.float mean.roundHundredths)
    | none => .error .quotientBeyondDouble

/-- CC: the weight of all methods by the decisions of Python. -/
def cyclomatic (v : ClassView) : Nat :=
  (v.methods.map (weight pythonDecisionTags)).foldr (· + ·) 0

/-- What finding the concrete methods tells. -/
def concreteTrace (v : ClassView) : List String :=
  (abstractNames v.methods v.primary?).map ("[WMC] Identified abstract method: " ++ ·)

/-- What adding up weights tells, from a running total on. -/
def totalsTrace (total : Nat) : List MethodDecl → List String
  | [] => []
  | m :: rest =>
    let w := weight decisionTags m
    ("[WMC] Complexity for " ++ m.name ++ ": " ++ toString w ++ ", running total: "
      ++ toString (total + w)) :: totalsTrace (total + w) rest

/-- What weighing methods tells. -/
def weightedMethodsTrace (v : ClassView) : List String :=
  let flag := match v.primary? with
    | some c => (Datum.bool c.isAbstract).literal
    | none => Datum.null.literal
  ("[WMC] Class is abstract: " ++ flag) :: concreteTrace v ++ totalsTrace 0 (concrete v)

/-- What counting decisions tells. -/
def cyclomaticTrace (v : ClassView) : List String :=
  v.methods.map fun m => "[CC] " ++ m.name ++ ": " ++ toString (weight pythonDecisionTags m)

end DesignGauge.Measure
