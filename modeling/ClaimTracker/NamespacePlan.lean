import ClaimTracker.NamespaceConfig

/-!
# What to poll for namespaces

The plan of a cycle says which resource types are listed on behalf of namespace configurations.
Types that are polled centrally are skipped. A composite type is listed once for the whole cluster,
with the keys of the first configuration that declares it; a claim type once in each namespace that
declares it, with the keys of the first configuration there.
-/

namespace ClaimTracker

/-- A claim type with the namespaces to list it in, each with its keys. -/
structure PlannedClaims where
  type : ResourceType
  scopes : List (String × ListingKeys)
deriving DecidableEq, Repr

/-- The listings of a cycle on behalf of namespace configurations. -/
structure NamespacePlan where
  composites : List (ResourceType × ListingKeys)
  claims : List PlannedClaims
  /-- The declarations of centrally polled types. -/
  skipped : List String
deriving DecidableEq, Repr

namespace NamespacePlan

structure Declaration where
  type : ResourceType
  ns : String
  keys : ListingKeys
deriving DecidableEq, Repr

def declaredComposites (configs : List NamespaceConfig) (central : RecordKeys) :
    List Declaration :=
  configs.flatMap fun c => c.compositeTypes.map fun t => ⟨t, c.ns, c.listingKeys central⟩

def declaredClaims (configs : List NamespaceConfig) (central : RecordKeys) : List Declaration :=
  configs.flatMap fun c => c.claimTypes.map fun t => ⟨t, c.ns, c.listingKeys central⟩

/-- The first element of each key. -/
def firstOfEach {α : Type} (key : α → String) (l : List α) : List α :=
  l.eraseDupsBy fun a b => key a == key b

/-- The declarations of types that are not polled centrally. -/
def unlessCentral (central : List String) (l : List Declaration) : List Declaration :=
  l.filter fun d => !central.contains d.type.display

def scopesOf (partition : String) (l : List Declaration) : List (String × ListingKeys) :=
  (firstOfEach Declaration.ns (l.filter fun d => d.type.display == partition)).map fun d =>
    (d.ns, d.keys)

/-- The plan, given the display forms of the types that are polled centrally. -/
def build (configs : List NamespaceConfig) (keys : RecordKeys)
    (centralClaims centralComposites : List String) : NamespacePlan :=
  let composites := unlessCentral centralComposites (declaredComposites configs keys)
  let claims := unlessCentral centralClaims (declaredClaims configs keys)
  { composites := (firstOfEach (fun d => d.type.display) composites).map fun d => (d.type, d.keys)
    claims := (firstOfEach (fun d => d.type.display) claims).map fun d =>
      ⟨d.type, scopesOf d.type.display claims⟩
    skipped := configs.flatMap fun c =>
      (c.compositeTypes.map ResourceType.display).filter centralComposites.contains ++
        (c.claimTypes.map ResourceType.display).filter centralClaims.contains }

end NamespacePlan

end ClaimTracker
