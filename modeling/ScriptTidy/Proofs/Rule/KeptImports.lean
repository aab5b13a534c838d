import ScriptTidy.Proofs.Names.References
import ScriptTidy.Proofs.Rule.Harmony

/-!
# Imports in use are kept

The rule on unused imports asks for the name of an import alone, whichever binding the identifiers of that name mean. It
can only err on the side of keeping an import: where the scope tree finds a reference to a binding, the list of uses has
an identifier that refers to its name, and the rule leaves all imports of that name in place.
-/

namespace ScriptTidy

namespace UnusedImports

/-- The name of a binding with a reference counts as used, whatever the settings are. -/
private theorem isUsed_of_referencesTo {tree : Tree} (h : tree.root.NamesInPlace) (settings : Settings) {id : Nat}
    {b : Binding} (hb : (ScopeTree.ofTree tree).bindings[id]? = some b)
    (hused : (ScopeTree.ofTree tree).referencesTo id ≠ []) :
    Clause.isUsed (.ofTree tree settings) b.name = true := by
  have hreferenced := Tree.isReferenced_of_referencesTo h hb hused
  rw [Clause.isUsed, Bool.or_eq_true]
  exact .inl hreferenced

/-- Every reference of the scope tree is one of the list of uses, with the same name and the same place. So the rule
on unused imports keeps what has a reference: no binding with one is among its changes, every part of an import clause
that brings in such a name counts as used, and where the nodes stand in the source as they should, no edit takes
that part away. -/
theorem used_imports_are_kept (tree : Tree) (h : tree.root.NamesInPlace) :
    (∀ r ∈ (ScopeTree.ofTree tree).references,
      ⟨r.name, r.site.span, .refers⟩ ∈ (Usage.ofTree tree).occurrences) ∧
    ∀ (settings : Settings) (id : Nat) (b : Binding), (ScopeTree.ofTree tree).bindings[id]? = some b →
      (ScopeTree.ofTree tree).referencesTo id ≠ [] →
      let f := Facts.ofTree tree settings
      b.name ∉ (propose f).changes ∧
      ∀ s ∈ tree.root.children, s.kind = .importStatement → ∀ n, s.childOfKind? .importClause = some n →
        ∀ i ∈ (Clause.ofNode f n).names, i.name = b.name → i.used = true ∧
          ∀ bare : BareNode, tree.root = bare.place 0 → tree.root.StandsIn tree.source →
            ∀ e ∈ (propose f).edits, e.Spares tree.source i.part := by
  refine ⟨fun r hr => Tree.occurs_of_reference h hr, fun settings id b hb hreferences => ?_⟩
  have hused := isUsed_of_referencesTo h settings hb hreferences
  refine ⟨not_mem_changes hused, fun s hs hk n hn i hi hname => ?_⟩
  have hiused : i.used = true := by
    rw [Clause.used_of_mem_names hi, hname]
    exact hused
  refine ⟨hiused, fun bare hbare hstands e he => ?_⟩
  have hplaced : tree.root.IsPlaced := by
    rw [hbare]
    exact BareNode.isPlaced_place bare 0 (hbare ▸ hstands.nested)
  have hanchored : tree.root.IsAnchored := by
    rw [hbare]
    exact BareNode.isAnchored_place bare 0 (hbare ▸ hstands.nested)
  exact spares_of_mem_propose (f := .ofTree tree settings) hstands.nested hplaced hanchored hstands.byte hstands.clauses
    hs hk hn hi hiused he

/-- A file that exports one of the two names it imports, and no more. -/
def reexporting : Tree where
  source := "import a, \x7b b \x7d from \"m\"; export \x7b b \x7d;"
  dialect := .javascript
  root := BareNode.place 0 <| .regular .program none 0 39 [.importing .defaultAndList, .exportingName 26 39]

/-- The exported name is kept, and the other one goes. -/
theorem used_imports_are_kept_reexporting :
    let f := Facts.ofTree reexporting .standard
    reexporting.root.NamesInPlace ∧ f.scopes.bindings[1]?.map (·.name) = some "b" ∧
    f.scopes.referencesTo 1 ≠ [] ∧ (propose f).changes = ["a"] ∧
    (∀ r ∈ f.scopes.references, ⟨r.name, r.site.span, .refers⟩ ∈ f.usage.occurrences) ∧ "b" ∉ (propose f).changes := by
  intro f
  have h : reexporting.root.NamesInPlace := by decide +kernel
  have hb : f.scopes.bindings[1]? = some ⟨1, "b", .importName, 0, [⟨⟨12, 13⟩, .plain⟩], false⟩ := by decide +kernel
  have hreferences : f.scopes.referencesTo 1 ≠ [] := by decide +kernel
  obtain ⟨hoccurs, hkept⟩ := used_imports_are_kept reexporting h
  refine ⟨h, by rw [hb]; rfl, hreferences, by decide +kernel, hoccurs, ?_⟩
  exact (hkept .standard 1 _ hb hreferences).1

end UnusedImports

end ScriptTidy
