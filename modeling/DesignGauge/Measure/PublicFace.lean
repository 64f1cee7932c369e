import DesignGauge.Measure.Ancestry
import DesignGauge.Measure.Count

/-!
# The public face of a class

Its public methods other than constructors, and its exposed fields. The weight of a class is the
share of that face which is more than access to data. A class with a parent adds the services
that it does not take over from it.
-/

namespace DesignGauge.Measure

/-- The public methods that are no constructors. -/
def publicMethods (v : ClassView) : List MethodDecl :=
  v.methods.filter fun m => !(m.isConstructor || !m.isPublic)

/-- The public face: methods and exposed fields. -/
def faceSize (v : ClassView) : Nat := (publicMethods v).length + publicAttributes v

/-- The part of the public face that gives access to data. -/
def dataFaceSize (v : ClassView) : Nat :=
  (publicMethods v).countP MethodDecl.isAccessor + publicAttributes v

/-- WOC: the share of the public face that is not access to data, 0 if there is no face. -/
def classWeight (v : ClassView) : Number :=
  if faceSize v == 0 then .int 0
  else .float ((Double.ofQuotient 1 1).sub (Double.ofQuotient (dataFaceSize v) (faceSize v)))

/-- What weighing a class tells. -/
def classWeightTrace (v : ClassView) : List String :=
  (exposed v).map (fun f => "[WOC] Public non-encapsulated field: " ++ f.name)
    ++ ["[WOC] totalPublicInterface: " ++ toString (faceSize v) ++ ", accessorInterface: "
      ++ toString (dataFaceSize v)]

/-- The public methods that are neither constructors nor overridden. -/
def newMethods (v : ClassView) : List MethodDecl := (publicMethods v).filter (!·.isOverridden)

/-- The services that a class with a parent adds: its new methods other than accessors. -/
def addedServices (v : ClassView) : List MethodDecl :=
  if (child? v).isSome then (newMethods v).filter (!·.isAccessor) else []

/-- NAS: the number of added services. -/
def addedServiceCount (v : ClassView) : Nat := (addedServices v).length

/-- PNAS: the share of added services among the public methods to two places, 0 without any. -/
def addedShare (v : ClassView) : Number :=
  if (addedServices v).isEmpty || (publicMethods v).isEmpty then .int 0
  else
    .float (Double.ofQuotient (addedServiceCount v) (publicMethods v).length).roundHundredths

/-- What looking for added services tells. -/
def addedServicesTrace (tag : String) (v : ClassView) : List String :=
  if (child? v).isSome then
    ["[" ++ tag ++ "] Public methods: " ++ toString (v.methods.countP MethodDecl.isPublic),
      "[" ++ tag ++ "] Public non-constructor methods: " ++ toString (publicMethods v).length,
      "[" ++ tag ++ "] Public non-constructor non-overridden methods: "
        ++ toString (newMethods v).length]
  else ["[" ++ tag ++ "] No ancestors found. " ++ tag ++ " = 0"]

end DesignGauge.Measure
