/-!
# Events

What a session reports while it works: which converters, catalogs and views it made, which
functions it left out and why, and which calls failed.
-/

namespace MemberDispatch

/-- The part of the program that reports an event. -/
inductive Channel
  | converters | catalog | registry | adaptor
  deriving DecidableEq, Repr

def Channel.name : Channel → String
  | .converters => "dynaprop.converters"
  | .catalog => "dynaprop.catalog"
  | .registry => "dynaprop.registry"
  | .adaptor => "dynaprop.adaptor"

/-- How serious an event is. -/
inductive Severity
  | debug | warning
  deriving DecidableEq, Repr

def Severity.name : Severity → String
  | .debug => "DEBUG"
  | .warning => "WARNING"

/-- Something that a session reports. -/
inductive Event
  | registeredConverter (key : String)
  | installedPlaceholder (key : String)
  | skippedFunction (function : String) (reason : String)
  | skippedInjection (function : String) (reason : String)
  | builtCatalog (owner : String) (instanceNames staticNames : Nat)
  | nothingProvided (provider : String) (cls : String)
  | registeredProvider (provider : String) (cls : String) (names : List String)
  | mergedNames (count : Nat) (cls : String)
  | unknownMember (name : String) (cls : String)
  | noOverload (name : String) (cls : String) (path : String)
  | failedInvocation (path : String) (cls : String) (fault : String)
  deriving DecidableEq, Repr

namespace Event

/-- The part of the program that reports the event. -/
def channel : Event → Channel
  | .registeredConverter _ | .installedPlaceholder _ => .converters
  | .skippedFunction _ _ | .skippedInjection _ _ | .builtCatalog _ _ _ => .catalog
  | .nothingProvided _ _ | .registeredProvider _ _ _ | .mergedNames _ _ => .registry
  | .unknownMember _ _ | .noOverload _ _ _ | .failedInvocation _ _ _ => .adaptor

def severity : Event → Severity
  | .skippedInjection _ _ | .nothingProvided _ _ => .warning
  | _ => .debug

/-- The wording of the event. The name in a report of a missing overload or member is given as it
is to be shown. -/
def message : Event → String
  | .registeredConverter key => "Registered converter for " ++ key
  | .installedPlaceholder key => "Installed placeholder converter for " ++ key
  | .skippedFunction function reason => "Skipping " ++ function ++ ": " ++ reason
  | .skippedInjection function reason => "Skipping " ++ function ++ ": " ++ reason
  | .builtCatalog owner instanceNames staticNames =>
      "Built catalog for " ++ owner ++ ": " ++ toString instanceNames ++ " instance, " ++
        toString staticNames ++ " static names"
  | .nothingProvided provider cls => "Provider " ++ provider ++ " exposes no functions for " ++ cls
  | .registeredProvider provider cls names =>
      "Registered provider " ++ provider ++ " for " ++ cls ++ ": " ++ ", ".intercalate names
  | .mergedNames count cls => "Merged " ++ toString count ++ " member names for " ++ cls
  | .unknownMember name cls => "No member " ++ name ++ " on " ++ cls
  | .noOverload name cls path =>
      "No overload of " ++ name ++ " on " ++ cls ++ " accepts " ++ path
  | .failedInvocation path cls fault =>
      "Invocation of " ++ path ++ " on " ++ cls ++ " failed: " ++ fault

end Event

end MemberDispatch
