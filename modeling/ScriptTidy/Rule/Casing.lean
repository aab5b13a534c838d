import ScriptTidy.Names.CamelCase
import ScriptTidy.Rule.Basic

/-!
# Names in camel case

A variable or function whose name is not in camel case is renamed, together with everything that refers to it. A
rename is skipped where it could clash with another name of the file.
-/

namespace ScriptTidy

namespace Casing

/-- Why a binding keeps its name. -/
inductive Obstacle where
  | exported
  | markupComponent
  | noCamelForm
  | reservedWord
  | nameInUse
  deriving DecidableEq, Repr

/-- The obstacle in words. -/
def Obstacle.text : Obstacle → String
  | exported => "exported name"
  | markupComponent => "used as a JSX component"
  | noCamelForm => "no camelCase form"
  | reservedWord => "target is a reserved word"
  | nameInUse => "target name already in use"

/-- The new name of a binding, given the new names that are already planned. -/
def plan (f : Facts) (taken : List String) (b : Binding) : Except Obstacle String :=
  let new := CamelCase.ofName b.name
  if b.exported && f.settings.keepExported then .error .exported
  else if (f.scopes.referencesTo b.id).any (·.site.form = .markupTag) then .error .markupComponent
  else if !CamelCase.isCamel new then .error .noCamelForm
  else if CamelCase.isReserved new then .error .reservedWord
  else if f.usage.contains new || taken.contains new then .error .nameInUse
  else .ok new

/-- The edit that gives an identifier its new name. A shorthand keeps the old name for the property. -/
def renameEdit (old new : String) (s : Site) : Edit :=
  .replace s.span (match s.form with
    | .objectShorthand | .patternShorthand => s!"{old}: {new}"
    | .exportSpecifier => s!"{new} as {old}"
    | .plain | .markupTag => new)

/-- The places that change when a binding is renamed. -/
def renameSites (f : Facts) (b : Binding) : List Site :=
  b.sites ++ (f.scopes.referencesTo b.id).map (·.site)

/-- The rule is about this binding. -/
def concerns (f : Facts) (b : Binding) : Bool :=
  (b.kind.isVariable || b.kind = .functionName) && !CamelCase.isCamel b.name && !f.settings.ignores b.name

/-- What to change about some bindings, when some new names are already planned. -/
def proposeFrom (f : Facts) (taken : List String) : List Binding → Proposal
  | [] => .none
  | b :: rest =>
    if concerns f b then
      match plan f taken b with
      | .ok new =>
        ⟨(renameSites f b).map (renameEdit b.name new), 1, [s!"{b.name} -> {new}"], []⟩ ++
          proposeFrom f (new :: taken) rest
      | .error obstacle =>
        ⟨[], 0, [], [s!"Skipped '{b.name}': {obstacle.text}"]⟩ ++ proposeFrom f taken rest
    else proposeFrom f taken rest

/-- What to change about the names of a file. -/
def propose (f : Facts) : Proposal := proposeFrom f [] f.scopes.bindings.toList

/-- The proposal in one sentence. -/
def headline (p : Proposal) : String :=
  if p.count = 0 then "All names are already camelCase!"
  else s!"Renamed {p.count} variable/function(s) to camelCase."

end Casing

end ScriptTidy
