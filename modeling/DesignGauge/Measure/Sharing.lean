import DesignGauge.Measure.View

/-!
# Shared names

Two methods hang together when a name is used in both. Tight cohesion is the share of such pairs
among all pairs of methods that are no constructors.
-/

namespace DesignGauge.Measure

open Text

/-- The methods that are no constructors. -/
def ordinary (v : ClassView) : List MethodDecl := v.methods.filter (!·.isConstructor)

/-- The names that both methods use. -/
def sharedNames (a b : MethodDecl) : List String :=
  (a.usedNames.filter b.usedNames.contains).eraseDups

/-- Two methods use a common name. -/
def shares (a b : MethodDecl) : Bool := a.usedNames.any b.usedNames.contains

/-- The pairs of methods at different positions, each once, in order. -/
def pairs {α : Type} : List α → List (α × α)
  | [] => []
  | a :: rest => rest.map (a, ·) ++ pairs rest

/-- The pairs that use a common name. -/
def cohesivePairs (methods : List MethodDecl) : List (MethodDecl × MethodDecl) :=
  (pairs methods).filter fun (a, b) => shares a b

/-- The number of pairs of positions. -/
def pairCount (n : Nat) : Nat := n * (n - 1) / 2

/-- The share of cohesive pairs. -/
def cohesion (methods : List MethodDecl) : Double :=
  Double.ofQuotient (cohesivePairs methods).length (pairCount methods.length)

/-- TCC: the share of cohesive pairs to two places; with fewer than two methods, their number. -/
def tightCohesion (v : ClassView) : Number :=
  if (ordinary v).length ≤ 1 then .ofNat (ordinary v).length
  else .float (cohesion (ordinary v)).roundHundredths

/-- What comparing methods tells. -/
def tightCohesionTrace (v : ClassView) : List String :=
  let methods := ordinary v
  let n := methods.length
  let names :=
    if (methods.map MethodDecl.name).all String.isEmpty && n ≤ 1 then "none"
    else String.intercalate ", " (methods.map MethodDecl.name)
  ("[TCC] Relevant methods: " ++ toString n ++ " (" ++ names ++ ")") ::
    if n ≤ 1 then
      ["[TCC] Not enough methods (" ++ toString n ++ "). Returning " ++ toString n]
    else
      (cohesivePairs methods).map (fun (a, b) =>
        "[TCC] " ++ a.name ++ " and " ++ b.name ++ " share "
          ++ textListLiteral (sortTexts (sharedNames a b)))
        ++ ["[TCC] Raw TCC: " ++ (cohesion methods).text ++ " = "
          ++ toString (cohesivePairs methods).length ++ " / "
          ++ (Double.ofQuotient (pairCount n) 1).text]

end DesignGauge.Measure
