import ScriptTidy.Proofs.Edit.InOrder
import ScriptTidy.Proofs.Names.Places
import ScriptTidy.Proofs.Rule.UnusedImports

/-!
# What is left of an import statement

The text that an import clause should have when its unused names are gone is written down here without any edit
(`clauseText`): each part stays if one of its names is used, a list that loses some names is written again from those
that stay, and what stands between the parts stays if both do. The edits of the rule on unused imports give this text
(`exists_text_of_edits`), and on what is left the rule has nothing to do (`proposeFor_withoutUnused`).
-/

namespace ScriptTidy

/-- The parts of an import clause: at most a default name, and behind it at most a namespace or a list, all of whose
entries have a local name. -/
structure Node.HasImportParts (n : Node) (default? rest? : Option Node) : Prop where
  parts : n.properChildren = default?.toList ++ rest?.toList
  default : ∀ d ∈ default?, d.kind = .identifier
  rest : ∀ r ∈ rest?, r.kind = .namespaceImport ∨
    r.kind = .namedImports ∧ ∀ c ∈ r.properChildren, (Reading.importedName? c).isSome = true

namespace UnusedImports

/-- The identifiers under which a clause brings in its names, in order. -/
def localNames (clause : Node) : List Node := clause.properChildren.flatMap Reading.importedBy

/-- The name of an identifier is used. -/
def isUsedName (f : Facts) (name : Node) : Bool := Clause.isUsed f (name.text f.tree.source)

/-- The local name of an entry of a list is used. -/
def isUsedEntry (f : Facts) (entry : Node) : Bool := (Reading.importedName? entry).any (isUsedName f)

/-- A list with its used entries in the place of all of them. -/
def listText (f : Facts) (list : Node) : String :=
  let source := f.tree.source
  match list.properChildren.head?, list.properChildren.getLast? with
  | some first, some last =>
    slice source ⟨list.span.start, first.span.start⟩ ++
      ", ".intercalate ((list.properChildren.filter (isUsedEntry f)).map (·.text source)) ++
      slice source ⟨last.span.stop, list.span.stop⟩
  | _, _ => list.text source

/-- What is left of a part of a clause: nothing where none of its names is used, and all of it where all are. -/
def partText? (f : Facts) (part : Node) : Option String :=
  let names := Reading.importedBy part
  if !names.any (isUsedName f) then none
  else if names.all (isUsedName f) then some (part.text f.tree.source)
  else some (listText f part)

/-- What is left of a clause. The text between the parts stays if both do. -/
def clauseText (f : Facts) (default? rest? : Option Node) : String :=
  match default?, rest? with
  | some d, some r =>
    match partText? f d, partText? f r with
    | some front, some back => front ++ slice f.tree.source ⟨d.span.stop, r.span.start⟩ ++ back
    | front?, back? => (front?.or back?).getD ""
  | _, _ => ((default?.or rest?).bind (partText? f)).getD ""

/-- A part of a clause without the entries of a list whose names are not used. -/
def withoutUnusedEntries (f : Facts) : Node → Node
  | .mk label children =>
    if label.kind = .namedImports then
      .mk label (children.filter fun c => (Reading.importedName? c).all (isUsedName f))
    else .mk label children

variable {f : Facts} {n s : Node} {default? rest? : Option Node}

/-! ### The clause that is read -/

/-- The names that one part brings in. -/
def importedFrom (f : Facts) (part : Node) : List ImportedName :=
  match part.kind with
  | .identifier => [Clause.imported f part part]
  | .namespaceImport => (part.childOfKind? .identifier).toList.map (Clause.imported f part)
  | .namedImports =>
    part.properChildren.filterMap fun entry => (Reading.importedName? entry).map (Clause.imported f entry)
  | _ => []

private theorem map_importedFrom (part : Node) : (importedFrom f part).map (fun i => (i.name, i.used)) =
    (Reading.importedBy part).map fun m => (m.text f.tree.source, isUsedName f m) := by
  unfold importedFrom Reading.importedBy
  cases part.kind with
  | namespaceImport =>
    simp only [List.map_map]
    rfl
  | namedImports =>
    simp only [List.map_filterMap, Option.map_map]
    rfl
  | _ => rfl

private theorem any_importedFrom (part : Node) :
    (importedFrom f part).any (·.used) = (Reading.importedBy part).any (isUsedName f) := by
  have h := congrArg (List.any · (·.2)) (map_importedFrom (f := f) part)
  simpa [List.any_map, Function.comp_def] using h

private theorem all_importedFrom (part : Node) :
    (importedFrom f part).all (·.used) = (Reading.importedBy part).all (isUsedName f) := by
  have h := congrArg (List.all · (·.2)) (map_importedFrom (f := f) part)
  simpa [List.all_map, Function.comp_def] using h

/-- The clause without what stands behind the default name. -/
private def defaultClause (f : Facts) (default? : Option Node) : Clause :=
  { Clause.empty with default? := default?.map fun d => Clause.imported f d d }

private theorem foldl_default (h : ∀ d ∈ default?, d.kind = .identifier) :
    default?.toList.foldl (Clause.add f) .empty = defaultClause f default? := by
  cases default? with
  | none => rfl
  | some d => simp [Clause.add, h d rfl, defaultClause]

private theorem ofNode_of_default (h : n.HasImportParts default? none) :
    Clause.ofNode f n = defaultClause f default? := by
  rw [Clause.ofNode, h.parts, Option.toList_none, List.append_nil, foldl_default h.default]

private theorem ofNode_of_rest {r : Node} (h : n.HasImportParts default? (some r)) :
    Clause.ofNode f n = Clause.add f (defaultClause f default?) r := by
  rw [Clause.ofNode, h.parts, List.foldl_append, foldl_default h.default]
  rfl

private theorem add_namespace {r : Node} (hr : r.kind = .namespaceImport) :
    Clause.add f (defaultClause f default?) r =
      { defaultClause f default? with whole? := (r.childOfKind? .identifier).map (Clause.imported f r) } := by
  simp only [Clause.add, hr]
  cases r.childOfKind? .identifier <;> rfl

private theorem add_list {r : Node} (hr : r.kind = .namedImports) :
    Clause.add f (defaultClause f default?) r =
      { defaultClause f default? with list? := some r, specifiers := importedFrom f r } := by
  simp only [Clause.add, hr, importedFrom]
  rfl

/-- The names of a clause are those of its parts, in their order. -/
private theorem names_ofNode (h : n.HasImportParts default? rest?) :
    (Clause.ofNode f n).names = n.properChildren.flatMap (importedFrom f) := by
  have hdefault : default?.toList.flatMap (importedFrom f) = (defaultClause f default?).default?.toList := by
    cases default? with
    | none => rfl
    | some d => simp [importedFrom, h.default d rfl, defaultClause]
  rw [h.parts, List.flatMap_append, hdefault]
  cases rest? with
  | none => simp [ofNode_of_default h, Clause.names, defaultClause, Clause.empty]
  | some r =>
    rw [ofNode_of_rest h, Option.toList_some, List.flatMap_singleton]
    rcases h.rest r rfl with hr | ⟨hr, -⟩
    · rw [add_namespace hr]
      cases hname : r.childOfKind? .identifier <;>
        simp [Clause.names, defaultClause, Clause.empty, importedFrom, hr, hname]
    · rw [add_list hr]
      simp [Clause.names, defaultClause, Clause.empty]

/-- The entries of a list whose names are used. -/
private theorem part_of_entries {entries : List Node} (h : ∀ c ∈ entries, (Reading.importedName? c).isSome = true) :
    let specifiers := entries.filterMap fun entry => (Reading.importedName? entry).map (Clause.imported f entry)
    specifiers.map (·.part) = entries ∧
      (specifiers.filter (·.used)).map (·.part) = entries.filter (isUsedEntry f) := by
  induction entries with
  | nil => exact ⟨rfl, rfl⟩
  | cons entry entries ih =>
    obtain ⟨hparts, hused⟩ := ih fun c hc => h c (List.mem_cons_of_mem _ hc)
    obtain ⟨name, hname⟩ := Option.isSome_iff_exists.1 (h entry List.mem_cons_self)
    have hentry : isUsedEntry f entry = (Clause.imported f entry name).used := by
      rw [isUsedEntry, hname]
      rfl
    simp only [List.filterMap_cons, hname, Option.map_some, List.map_cons, List.filter_cons, hentry, hparts]
    refine ⟨rfl, ?_⟩
    split
    · rw [List.map_cons, hused]
      rfl
    · exact hused

/-! ### The edits of a clause -/

/-- A list that loses some but not all of its names is written again from the first entry to the last. -/
private theorem specifierEdits_of_list {c : Clause} {list : Node} (source : String) (hk : list.kind = .namedImports)
    (hentries : ∀ e ∈ list.properChildren, (Reading.importedName? e).isSome = true)
    (hspecifiers : c.specifiers = importedFrom f list) (hany : (importedFrom f list).any (·.used) = true)
    (hall : (importedFrom f list).all (·.used) = false) :
    ∃ first last, list.properChildren.head? = some first ∧ list.properChildren.getLast? = some last ∧
      c.specifierEdits source = [.replace ⟨first.span.start, last.span.stop⟩
        (", ".intercalate ((list.properChildren.filter (isUsedEntry f)).map (·.text source)))] := by
  obtain ⟨hparts, hused⟩ := part_of_entries (f := f) hentries
  have hfrom : importedFrom f list = list.properChildren.filterMap fun entry =>
      (Reading.importedName? entry).map (Clause.imported f entry) := by simp only [importedFrom, hk]
  rw [← hfrom, ← hspecifiers] at hparts hused
  rw [← hspecifiers] at hany hall
  have hne : c.specifiers ≠ [] := by
    rintro hnil
    simp [hnil] at hany
  have hlength : (c.specifiers.filter (·.used)).length ≠ c.specifiers.length := by
    rw [ne_eq, List.length_filter_eq_length_iff]
    simpa using hall
  have hkept : (c.specifiers.filter (·.used)).isEmpty = false := by
    rw [List.isEmpty_eq_false_iff, ne_eq, List.filter_eq_nil_iff]
    simpa using hany
  have hhead := List.head?_eq_some_head hne
  have hlast := List.getLast?_eq_some_getLast hne
  refine ⟨(c.specifiers.head hne).part, (c.specifiers.getLast hne).part, ?_, ?_, ?_⟩
  · rw [← hparts, List.head?_map, hhead, Option.map_some]
  · rw [← hparts, List.getLast?_map, hlast, Option.map_some]
  · rw [Clause.specifierEdits, if_neg hlength, hkept, if_neg (by simp), hhead, hlast, ← hused, List.map_map]
    rfl

/-- Behind a default name, the namespace or list is cut off if none of its names is used; the default name is cut off
if it is not used itself. -/
private theorem edits_of_two {d r : Node} (h : n.HasImportParts (some d) (some r)) (hne : importedFrom f r ≠ [])
    (source : String) : (Clause.ofNode f n).partEdits source =
      (if isUsedName f d then [] else [.delete ⟨d.span.start, r.span.start⟩]) ++
        if (importedFrom f r).all (·.used) then []
        else if (importedFrom f r).any (·.used) then (Clause.ofNode f n).specifierEdits source
        else [.delete ⟨d.span.stop, r.span.stop⟩] := by
  unfold Clause.partEdits
  generalize hc : Clause.ofNode f n = c
  rw [ofNode_of_rest h] at hc
  rcases h.rest r rfl with hr | ⟨hr, -⟩
  · obtain ⟨m, hm⟩ : ∃ m, r.childOfKind? .identifier = some m := by
      rw [← Option.isSome_iff_exists, Option.isSome_iff_ne_none]
      rintro hnone
      simp [importedFrom, hr, hnone] at hne
    have hfrom : importedFrom f r = [Clause.imported f r m] := by simp [importedFrom, hr, hm]
    rw [add_namespace hr, hm] at hc
    rw [← hc, hfrom]
    cases hd : Clause.isUsed f (d.text f.tree.source) <;> cases hu : Clause.isUsed f (m.text f.tree.source) <;>
      simp [Clause.defaultEdits, Clause.namespaceEdits, Clause.specifierEdits, Clause.rest?, defaultClause,
        Clause.empty, Clause.imported, isUsedName, hd, hu]
  · rw [add_list hr] at hc
    have hlength : (c.specifiers.filter (·.used)).length = c.specifiers.length ↔
        (importedFrom f r).all (·.used) = true := by
      rw [← hc, List.length_filter_eq_length_iff, List.all_eq_true]
    have hempty : (c.specifiers.filter (·.used)).isEmpty = true ↔ ¬ (importedFrom f r).any (·.used) = true := by
      rw [← hc, List.isEmpty_iff, List.filter_eq_nil_iff]
      simp
    have hspecifiers : c.specifierEdits source =
        if (importedFrom f r).all (·.used) then []
        else if (importedFrom f r).any (·.used) then c.specifierEdits source
        else [.delete ⟨d.span.stop, r.span.stop⟩] := by
      split
      · rename_i hall
        rw [Clause.specifierEdits, if_pos (hlength.2 hall)]
      · split
        · rfl
        · rename_i hall hany
          rw [Clause.specifierEdits, if_neg (mt hlength.1 hall), if_pos (hempty.2 hany), ← hc]
          rfl
    rw [← hspecifiers]
    refine congrArg (· ++ c.specifierEdits source) ?_
    rw [← hc]
    cases hd : Clause.isUsed f (d.text f.tree.source) <;>
      simp [Clause.defaultEdits, Clause.namespaceEdits, Clause.rest?, defaultClause, Clause.empty, Clause.imported,
        isUsedName, hd]

/-- Without a default name there are only the edits of a list. -/
private theorem edits_of_one {r : Node} (h : n.HasImportParts none (some r)) (source : String) :
    (Clause.ofNode f n).partEdits source = (Clause.ofNode f n).specifierEdits source := by
  have hdefault : (Clause.ofNode f n).default? = none := by
    rw [ofNode_of_rest h]
    rcases h.rest r rfl with hr | ⟨hr, -⟩
    · rw [add_namespace hr]
      rfl
    · rw [add_list hr]
      rfl
  simp [Clause.partEdits, Clause.defaultEdits, Clause.namespaceEdits, hdefault]

private theorem specifiers_ofNode {r : Node} (h : n.HasImportParts default? (some r)) (hr : r.kind = .namedImports) :
    (Clause.ofNode f n).specifiers = importedFrom f r := by
  rw [ofNode_of_rest h, add_list hr]

/-- Only a list can lose some but not all of its names. -/
private theorem isList_of_partly {r : Node} (h : n.HasImportParts default? (some r))
    (hany : (importedFrom f r).any (·.used) = true) (hall : (importedFrom f r).all (·.used) = false) :
    r.kind = .namedImports ∧ ∀ c ∈ r.properChildren, (Reading.importedName? c).isSome = true := by
  refine (h.rest r rfl).resolve_left fun hr => ?_
  cases hname : r.childOfKind? .identifier <;> simp_all [importedFrom]

/-! ### The text that is left -/

private theorem mem_nodes_of_importedBy {part m : Node} (hm : m ∈ Reading.importedBy part) : m ∈ part.nodes := by
  unfold Reading.importedBy at hm
  split at hm
  · rw [List.mem_singleton.1 hm]
    exact Node.mem_nodes_self _
  · exact Node.child_mem_nodes (Node.mem_children_of_kind (Option.mem_toList.1 hm))
  · obtain ⟨entry, hentry, hname⟩ := List.mem_filterMap.1 hm
    exact Node.mem_nodes_of_child (Node.mem_children_of_proper hentry)
      (Node.child_mem_nodes (Reading.mem_children_of_imported hname))
  · cases hm

section Text

variable (hn : n.IsNested)
  (hbound : ∀ p ∈ n.nodes, isBoundary f.tree.source p.span.start = true ∧ isBoundary f.tree.source p.span.stop = true)
  (hname : ∀ m ∈ localNames n, m.text f.tree.source ≠ "")

include hn hname in
/-- A part that brings in a name has a byte. -/
private theorem lt_of_part {part : Node} (hpart : part ∈ n.properChildren) (hne : importedFrom f part ≠ []) :
    part.span.start < part.span.stop := by
  have hnames : Reading.importedBy part ≠ [] := by
    rw [ne_eq, ← List.map_eq_nil_iff, ← map_importedFrom (f := f), List.map_eq_nil_iff]
    exact hne
  obtain ⟨m, hm⟩ := List.exists_mem_of_ne_nil _ hnames
  have hbyte := Node.lt_of_text (hname m (List.mem_flatMap.2 ⟨part, hpart, hm⟩))
  have hcovers := Span.covers_iff.1
    ((hn.child (Node.mem_children_of_proper hpart)).covers (mem_nodes_of_importedBy hm))
  omega

include hn hname in
/-- The entries of a list stand in it, and have bytes from the first to the last. -/
private theorem ends_of_list {list first last : Node} (hlist : list ∈ n.properChildren) (hk : list.kind = .namedImports)
    (hentries : ∀ e ∈ list.properChildren, (Reading.importedName? e).isSome = true)
    (hfirst : list.properChildren.head? = some first) (hlast : list.properChildren.getLast? = some last) :
    first ∈ list.children ∧ last ∈ list.children ∧ list.span.start ≤ first.span.start ∧
      first.span.start < last.span.stop ∧ last.span.stop ≤ list.span.stop := by
  have hnested := hn.child (Node.mem_children_of_proper hlist)
  have hfirst' := List.mem_of_head? hfirst
  have hmem := Node.mem_children_of_proper hfirst'
  have hmem' := Node.mem_children_of_proper (List.mem_of_getLast? hlast)
  refine ⟨hmem, hmem', (Span.covers_iff.1 (hnested.covers_child hmem)).1, ?_,
    (Span.covers_iff.1 (hnested.covers_child hmem')).2⟩
  have hbyte : first.span.start < first.span.stop := by
    obtain ⟨m, hm⟩ := Option.isSome_iff_exists.1 (hentries first hfirst')
    have hlocal : m ∈ localNames n := by
      refine List.mem_flatMap.2 ⟨list, hlist, ?_⟩
      simp only [Reading.importedBy, hk]
      exact List.mem_filterMap.2 ⟨first, hfirst', hm⟩
    have h₁ := Node.lt_of_text (hname m hlocal)
    have h₂ := Span.covers_iff.1 ((hnested.child hmem).covers_child (Reading.mem_children_of_imported hm))
    omega
  -- the last entry is the first, or stands behind it
  obtain ⟨others, hothers⟩ := List.head?_eq_some_iff.1 hfirst
  have hpair : list.properChildren.Pairwise fun a b => a.span.stop ≤ b.span.start := hnested.pairwise_children.filter _
  rw [hothers] at hlast hpair
  rcases List.mem_cons.1 (List.mem_of_getLast? hlast) with rfl | hbehind
  · exact hbyte
  · have h₁ := List.rel_of_pairwise_cons hpair hbehind
    have h₂ := (hnested.child hmem').start_le_stop
    omega

private theorem partText?_eq (part : Node) : partText? f part =
    if !(importedFrom f part).any (·.used) then none
    else if (importedFrom f part).all (·.used) then some (part.text f.tree.source)
    else some (listText f part) := by
  rw [any_importedFrom, all_importedFrom]
  rfl

private theorem partText?_identifier {d : Node} (hd : d.kind = .identifier) :
    partText? f d = if isUsedName f d then some (d.text f.tree.source) else none := by
  rw [partText?_eq]
  cases hu : isUsedName f d <;> simp_all [importedFrom, Clause.imported, isUsedName]

include hn hbound hname in
/-- The edits for a default name and what is behind it leave what the clause should be. -/
private theorem exists_text_of_two {d r : Node} (h : n.HasImportParts (some d) (some r))
    (hused : isUsedName f d = true ∨ (importedFrom f r).any (·.used) = true)
    (hunused : isUsedName f d = false ∨ (importedFrom f r).all (·.used) = false) :
    ∃ set, EditSet.merge ((Clause.ofNode f n).partEdits f.tree.source) = .ok set ∧
      set.apply f.tree.source = .ok (slice f.tree.source ⟨0, d.span.start⟩ ++ clauseText f (some d) (some r) ++
        slice f.tree.source ⟨r.span.stop, f.tree.source.utf8ByteSize⟩) := by
  have hd : d ∈ n.properChildren := by simp [h.parts]
  have hr : r ∈ n.properChildren := by simp [h.parts]
  have hne : importedFrom f r ≠ [] := by
    rintro hnil
    simp_all
  have hdbyte : d.span.start < d.span.stop :=
    lt_of_part hn hname hd (by simp [importedFrom, h.default d rfl])
  have hrbyte : r.span.start < r.span.stop := lt_of_part hn hname hr hne
  have horder : d.span.stop ≤ r.span.start := by
    have hpair : n.properChildren.Pairwise fun a b => a.span.stop ≤ b.span.start := hn.pairwise_children.filter _
    rw [h.parts] at hpair
    simpa using hpair
  obtain ⟨hd₁, hd₂⟩ := hbound d (Node.child_mem_nodes (Node.mem_children_of_proper hd))
  obtain ⟨hr₁, hr₂⟩ := hbound r (Node.child_mem_nodes (Node.mem_children_of_proper hr))
  have hzero := isBoundary_zero f.tree.source
  have hsize := isBoundary_utf8ByteSize f.tree.source
  have htext : ∀ m : Node, m.text f.tree.source = slice f.tree.source ⟨m.span.start, m.span.stop⟩ := fun _ => rfl
  rw [edits_of_two h hne]
  simp only [clauseText, partText?_identifier (h.default d rfl), partText?_eq r]
  cases hany : (importedFrom f r).any (·.used) with
  | false =>
    -- the default name stays alone
    have hu : isUsedName f d = true := by simpa [hany] using hused
    have hall : (importedFrom f r).all (·.used) = false := by simpa [hu] using hunused
    obtain ⟨set, hmerge, happly⟩ := EditSet.apply_one (e := .delete ⟨d.span.stop, r.span.stop⟩) hd₂ hr₂
      (show d.span.stop < r.span.stop by omega)
    refine ⟨set, by simpa [hu, hall] using hmerge, happly.trans ?_⟩
    have hfront := slice_append_slice (Nat.zero_le _) (Nat.le_of_lt hdbyte) hzero hd₁ hd₂
    simp [hu, Edit.replacement, htext d, ← hfront]
  | true =>
    cases hall : (importedFrom f r).all (·.used) with
    | true =>
      -- what is behind the default name stays alone
      have hu : isUsedName f d = false := by simpa [hall] using hunused
      obtain ⟨set, hmerge, happly⟩ := EditSet.apply_one (e := .delete ⟨d.span.start, r.span.start⟩) hd₁ hr₁
        (show d.span.start < r.span.start by omega)
      refine ⟨set, by simpa [hu] using hmerge, happly.trans ?_⟩
      have hback := slice_append_slice (Nat.le_of_lt hrbyte) (le_of_isBoundary hr₂) hr₁ hr₂ hsize
      simp [hu, Edit.replacement, htext r, ← hback, String.append_assoc]
    | false =>
      -- some of a list goes
      obtain ⟨hk, hentries⟩ := isList_of_partly h hany hall
      obtain ⟨first, last, hfirst, hlast, hedits⟩ := specifierEdits_of_list f.tree.source hk hentries
        (specifiers_ofNode h hk) hany hall
      generalize htexts : ", ".intercalate _ = texts at hedits
      obtain ⟨hfirst', hlast', h₁, h₂, h₃⟩ := ends_of_list hn hname hr hk hentries hfirst hlast
      have hinside : ∀ {m : Node}, m ∈ r.children → m ∈ n.nodes := fun hm =>
        Node.mem_nodes_of_child (Node.mem_children_of_proper hr) (Node.child_mem_nodes hm)
      have hf := (hbound first (hinside hfirst')).1
      have hl := (hbound last (hinside hlast')).2
      have hback := slice_append_slice h₃ (le_of_isBoundary hr₂) hl hr₂ hsize
      cases hu : isUsedName f d with
      | true =>
        obtain ⟨set, hmerge, happly⟩ :=
          EditSet.apply_one (e := .replace ⟨first.span.start, last.span.stop⟩ texts) hf hl h₂
        refine ⟨set, by simpa [hedits] using hmerge, happly.trans ?_⟩
        have hone := slice_append_slice (Nat.zero_le _) (Nat.le_of_lt hdbyte) hzero hd₁ hd₂
        have htwo := slice_append_slice (Nat.zero_le _) horder hzero hd₂ hr₁
        have hthree := slice_append_slice (Nat.zero_le _) h₁ hzero hr₁ hf
        simp [Edit.replacement, listText, hfirst, hlast, htexts, htext d, ← hthree, ← htwo, ← hone,
          ← hback, String.append_assoc]
      | false =>
        obtain ⟨set, hmerge, happly⟩ := EditSet.apply_two (e := .delete ⟨d.span.start, r.span.start⟩)
          (d := .replace ⟨first.span.start, last.span.stop⟩ texts) hd₁ hr₁ (show d.span.start < r.span.start by omega)
          hf hl h₂ h₁
        refine ⟨set, by simpa [hedits] using hmerge, happly.trans ?_⟩
        simp [Edit.replacement, listText, hfirst, hlast, htexts, ← hback, String.append_assoc]

include hn hbound hname in
/-- The edits for a list without a default name leave what the list should be. -/
private theorem exists_text_of_one {r : Node} (h : n.HasImportParts none (some r))
    (hany : (importedFrom f r).any (·.used) = true) (hall : (importedFrom f r).all (·.used) = false) :
    ∃ set, EditSet.merge ((Clause.ofNode f n).partEdits f.tree.source) = .ok set ∧
      set.apply f.tree.source = .ok (slice f.tree.source ⟨0, r.span.start⟩ ++ clauseText f none (some r) ++
        slice f.tree.source ⟨r.span.stop, f.tree.source.utf8ByteSize⟩) := by
  have hr : r ∈ n.properChildren := by simp [h.parts]
  obtain ⟨hr₁, hr₂⟩ := hbound r (Node.child_mem_nodes (Node.mem_children_of_proper hr))
  obtain ⟨hk, hentries⟩ := isList_of_partly h hany hall
  obtain ⟨first, last, hfirst, hlast, hedits⟩ :=
    specifierEdits_of_list f.tree.source hk hentries (specifiers_ofNode h hk) hany hall
  generalize htexts : ", ".intercalate _ = texts at hedits
  obtain ⟨hfirst', hlast', h₁, h₂, h₃⟩ := ends_of_list hn hname hr hk hentries hfirst hlast
  have hinside : ∀ {m : Node}, m ∈ r.children → m ∈ n.nodes := fun hm =>
    Node.mem_nodes_of_child (Node.mem_children_of_proper hr) (Node.child_mem_nodes hm)
  have hf := (hbound first (hinside hfirst')).1
  have hl := (hbound last (hinside hlast')).2
  obtain ⟨set, hmerge, happly⟩ := EditSet.apply_one (e := .replace ⟨first.span.start, last.span.stop⟩ texts) hf hl h₂
  refine ⟨set, by rwa [edits_of_one h, hedits], happly.trans ?_⟩
  have hfront := slice_append_slice (Nat.zero_le _) h₁ (isBoundary_zero f.tree.source) hr₁ hf
  have hback := slice_append_slice h₃ (le_of_isBoundary hr₂) hl hr₂ (isBoundary_utf8ByteSize f.tree.source)
  simp [clauseText, partText?_eq r, hany, hall, Edit.replacement, listText, hfirst, hlast, htexts, ← hfront, ← hback,
    String.append_assoc]

include hn hbound hname in
/-- As long as some but not all names of a clause are used, its edits leave what it should be. -/
theorem exists_text_of_edits (h : n.HasImportParts default? rest?)
    (hused : ∃ m ∈ localNames n, isUsedName f m = true) (hunused : ∃ m ∈ localNames n, isUsedName f m = false) :
    ∃ first last set, n.properChildren.head? = some first ∧ n.properChildren.getLast? = some last ∧
      EditSet.merge ((Clause.ofNode f n).partEdits f.tree.source) = .ok set ∧
      set.apply f.tree.source = .ok (slice f.tree.source ⟨0, first.span.start⟩ ++ clauseText f default? rest? ++
        slice f.tree.source ⟨last.span.stop, f.tree.source.utf8ByteSize⟩) := by
  have hany : (n.properChildren.flatMap (importedFrom f)).any (·.used) = true := by
    simp only [List.any_flatMap, any_importedFrom]
    rw [← List.any_flatMap, List.any_eq_true]
    exact hused
  have hall : (n.properChildren.flatMap (importedFrom f)).all (·.used) = false := by
    simp only [List.all_flatMap, all_importedFrom]
    rw [← List.all_flatMap, List.all_eq_false]
    simp only [Bool.not_eq_true]
    exact hunused
  rw [h.parts] at hany hall ⊢
  cases default? with
  | none =>
    cases rest? with
    | none => simp at hany
    | some r =>
      simp only [Option.toList_none, Option.toList_some, List.nil_append, List.flatMap_singleton] at hany hall
      obtain ⟨set, hmerge, happly⟩ := exists_text_of_one hn hbound hname h hany hall
      exact ⟨r, r, set, rfl, rfl, hmerge, happly⟩
  | some d =>
    have hd : importedFrom f d = [Clause.imported f d d] := by simp [importedFrom, h.default d rfl]
    cases rest? with
    | none =>
      -- a single name is used or not
      cases hu : (Clause.imported f d d).used <;> simp [hd, hu] at hany hall
    | some r =>
      simp only [Option.toList_some, List.singleton_append, List.flatMap_cons, List.flatMap_nil, List.append_nil, hd,
        List.any_cons, List.all_cons, Bool.or_eq_true, Bool.and_eq_false_iff] at hany hall
      obtain ⟨set, hmerge, happly⟩ := exists_text_of_two hn hbound hname h hany hall
      exact ⟨d, r, set, rfl, rfl, hmerge, happly⟩

end Text

/-! ### What is left alone -/

private theorem used_of_importedBy
    (hused : ∀ part ∈ n.properChildren, ∀ m ∈ Reading.importedBy part, isUsedName f m = true) :
    ∀ i ∈ (Clause.ofNode f n).names, i.used = true := by
  have hfrom : ∀ {part : Node}, (∀ m ∈ Reading.importedBy part, isUsedName f m = true) →
      ∀ i ∈ importedFrom f part, i.used = true := by
    intro part hpart
    rw [← List.all_eq_true (p := fun i : ImportedName => i.used), all_importedFrom, List.all_eq_true]
    exact hpart
  have hadd : ∀ (c : Clause) (part : Node), ∀ i ∈ (Clause.add f c part).names,
      i ∈ c.names ∨ i ∈ importedFrom f part := by
    intro c part i
    unfold Clause.add importedFrom
    cases part.kind with
    | identifier =>
      intro hi
      simp only [Clause.mem_names, List.mem_singleton] at hi ⊢
      rcases hi with hi | hi | hi
      · exact .inr (Option.some.inj hi).symm
      · exact .inl (.inr (.inl hi))
      · exact .inl (.inr (.inr hi))
    | namespaceImport =>
      cases hname : part.childOfKind? .identifier with
      | none => exact .inl
      | some name =>
        intro hi
        simp only [Clause.mem_names, Option.toList_some, List.map_cons, List.map_nil, List.mem_singleton] at hi ⊢
        rcases hi with hi | hi | hi
        · exact .inl (.inl hi)
        · exact .inr (Option.some.inj hi).symm
        · exact .inl (.inr (.inr hi))
    | namedImports =>
      intro hi
      simp only [Clause.mem_names, List.mem_append] at hi ⊢
      tauto
    | _ => exact .inl
  have hfold : ∀ (parts : List Node) (c : Clause),
      (∀ part ∈ parts, ∀ m ∈ Reading.importedBy part, isUsedName f m = true) → (∀ i ∈ c.names, i.used = true) →
      ∀ i ∈ (parts.foldl (Clause.add f) c).names, i.used = true := by
    intro parts
    induction parts with
    | nil => exact fun c _ hc => hc
    | cons part parts ih =>
      intro c hparts hc
      refine ih _ (fun p hp => hparts p (List.mem_cons_of_mem _ hp)) fun i hi => ?_
      rcases hadd c part i hi with hi | hi
      · exact hc i hi
      · exact hfrom (hparts part List.mem_cons_self) i hi
  exact hfold n.properChildren .empty hused (by simp [Clause.names, Clause.empty])

private theorem label_withoutUnusedEntries (part : Node) : (withoutUnusedEntries f part).label = part.label := by
  cases part
  rw [withoutUnusedEntries]
  split <;> rfl

/-- What stays of a part has only used names. -/
private theorem used_of_withoutUnusedEntries {part : Node}
    (hpart : (Reading.importedBy part).any (isUsedName f) = true) :
    ∀ m ∈ Reading.importedBy (withoutUnusedEntries f part), isUsedName f m = true := by
  obtain ⟨label, children⟩ := part
  rw [withoutUnusedEntries]
  split
  · rename_i hk
    intro m hm
    simp only [Reading.importedBy, Node.kind, Node.label, hk] at hm
    obtain ⟨entry, hentry, hm⟩ := List.mem_filterMap.1 hm
    have hkept := (List.mem_filter.1 (Node.mem_children_of_proper hentry)).2
    simpa [hm] using hkept
  · rename_i hk
    intro m hm
    obtain ⟨m', hm', hused⟩ := List.any_eq_true.1 hpart
    -- what is no list brings in at most one name
    have hone : m = m' := by
      unfold Reading.importedBy at hm hm'
      split at hm
      · simp_all
      · simp_all
      · exact absurd ‹_› hk
      · cases hm
    rw [hone, hused]

/-- A clause without the parts that have no used name, and without the unused entries of its list. -/
def withoutUnusedParts (f : Facts) (clause : Node) : Node :=
  .mk clause.label ((clause.children.filter fun part =>
    !part.kind.isImportPart || (Reading.importedBy part).any (isUsedName f)).map (withoutUnusedEntries f))

/-- An import statement without what its clause brings in unused. -/
def withoutUnused (f : Facts) (statement : Node) : Node :=
  .mk statement.label (statement.children.map fun c => if c.kind = .importClause then withoutUnusedParts f c else c)

private theorem used_of_withoutUnusedParts (f : Facts) (clause : Node) :
    ∀ part ∈ (withoutUnusedParts f clause).properChildren, ∀ m ∈ Reading.importedBy part, isUsedName f m = true := by
  intro part hpart
  obtain ⟨old, hold, rfl⟩ := List.mem_map.1 (Node.mem_children_of_proper hpart)
  have hkept := (List.mem_filter.1 hold).2
  rw [Bool.or_eq_true] at hkept
  rcases hkept with hkind | hany
  · -- other parts bring in nothing
    have hlabel : (withoutUnusedEntries f old).kind = old.kind := congrArg Label.kind (label_withoutUnusedEntries old)
    have hnil : Reading.importedBy (withoutUnusedEntries f old) = [] := by
      unfold Reading.importedBy
      rw [hlabel]
      split <;> simp_all [Kind.isImportPart]
    simp [hnil]
  · exact used_of_withoutUnusedEntries hany

/-- The rule has nothing to do on what is left of a statement. -/
theorem proposeFor_withoutUnused (f : Facts) (s : Node) : proposeFor f (withoutUnused f s) = .none := by
  have hclause : (withoutUnused f s).childOfKind? .importClause =
      (s.childOfKind? .importClause).map (withoutUnusedParts f) := by
    obtain ⟨label, children⟩ := s
    rw [Node.childOfKind?, Node.childOfKind?, withoutUnused, Node.children, Node.children]
    induction children with
    | nil => rfl
    | cons c cs ih =>
      rw [List.map_cons, List.find?_cons, List.find?_cons]
      by_cases hk : c.kind = .importClause
      · have hk' : (withoutUnusedParts f c).kind = .importClause := hk
        simp [hk, hk']
      · rw [if_neg hk, ih]
        simp [hk]
  rw [proposeFor, hclause]
  cases s.childOfKind? .importClause with
  | none => rfl
  | some n =>
    have hused := used_of_importedBy (used_of_withoutUnusedParts f n)
    have hnone : ((Clause.ofNode f (withoutUnusedParts f n)).names.filter (!·.used)).isEmpty = true := by
      rw [List.isEmpty_iff, List.filter_eq_nil_iff]
      simpa using hused
    rw [Option.map_some]
    dsimp only
    rw [if_pos hnone]

/-! ### A whole statement -/

/-- The names of a clause are the texts of its local names. -/
private theorem pairs_ofNode (h : n.HasImportParts default? rest?) :
    (Clause.ofNode f n).names.map (fun i => (i.name, i.used)) =
      (localNames n).map fun m => (m.text f.tree.source, isUsedName f m) := by
  rw [names_ofNode h, localNames, List.map_flatMap, List.map_flatMap]
  exact List.flatMap_congr fun part _ => map_importedFrom part

/-- The rule on unused imports reports the unused names of a statement, in order. A statement that uses all its names is
left alone, and one that uses none of them goes as a whole. Otherwise the outcome is the text with what the clause
should be in the place of its parts, on which the rule has nothing to do. -/
theorem used_names_stay_in_statement (f : Facts) {s n : Node} {default? rest? : Option Node}
    (hclause : s.childOfKind? .importClause = some n) (h : n.HasImportParts default? rest?) (hn : n.IsNested)
    (hbound : ∀ p ∈ n.nodes,
      isBoundary f.tree.source p.span.start = true ∧ isBoundary f.tree.source p.span.stop = true)
    (hname : ∀ m ∈ localNames n, m.text f.tree.source ≠ "") :
    let unused := ((localNames n).filter (!isUsedName f ·)).map (·.text f.tree.source)
    (proposeFor f s).changes = unused ∧ (proposeFor f s).count = unused.length ∧
      ((∀ m ∈ localNames n, isUsedName f m = true) → (proposeFor f s).edits = []) ∧
      (localNames n ≠ [] → (∀ m ∈ localNames n, isUsedName f m = false) →
        (proposeFor f s).edits = [.delete s.fullSpan]) ∧
      ((∃ m ∈ localNames n, isUsedName f m = true) → (∃ m ∈ localNames n, isUsedName f m = false) →
        ∃ first last set, n.properChildren.head? = some first ∧ n.properChildren.getLast? = some last ∧
          EditSet.merge (proposeFor f s).edits = .ok set ∧
          set.apply f.tree.source = .ok (slice f.tree.source ⟨0, first.span.start⟩ ++ clauseText f default? rest? ++
            slice f.tree.source ⟨last.span.stop, f.tree.source.utf8ByteSize⟩)) ∧
      proposeFor f (withoutUnused f s) = .none := by
  intro unused
  have hpairs := pairs_ofNode (f := f) h
  have hunused : ((Clause.ofNode f n).names.filter (!·.used)).map (·.name) = unused := by
    have hfilter := congrArg (fun pairs => (pairs.filter (!·.2)).map (·.1)) hpairs
    simpa [List.filter_map, Function.comp_def] using hfilter
  have hcount : ((Clause.ofNode f n).names.filter (!·.used)).length = unused.length := by
    rw [← hunused, List.length_map]
  have hlength : (Clause.ofNode f n).names.length = (localNames n).length := by
    simpa using congrArg List.length hpairs
  have hempty : ((Clause.ofNode f n).names.filter (!·.used)).isEmpty = true ↔
      ∀ m ∈ localNames n, isUsedName f m = true := by
    rw [← List.length_eq_zero_iff.trans List.isEmpty_iff.symm, hcount, List.length_map, List.length_eq_zero_iff,
      List.filter_eq_nil_iff]
    simp
  have hwhole : ((Clause.ofNode f n).names.filter (!·.used)).length = (Clause.ofNode f n).names.length ↔
      ∀ m ∈ localNames n, isUsedName f m = false := by
    rw [hcount, hlength, List.length_map, List.length_filter_eq_length_iff]
    simp
  have hpropose : proposeFor f s =
      if ((Clause.ofNode f n).names.filter (!·.used)).isEmpty = true then .none
      else
        ⟨if ((Clause.ofNode f n).names.filter (!·.used)).length = (Clause.ofNode f n).names.length then
            [.delete s.fullSpan]
          else (Clause.ofNode f n).partEdits f.tree.source, unused.length, unused, []⟩ := by
    rw [proposeFor, hclause]
    dsimp only
    rw [← hunused, List.length_map]
    rfl
  refine ⟨?_, ?_, ?_, ?_, ?_, proposeFor_withoutUnused f s⟩
  · rw [hpropose]
    split
    · rename_i hnone
      rw [← hunused, List.isEmpty_iff.1 hnone]
      rfl
    · rfl
  · rw [hpropose]
    split
    · rename_i hnone
      rw [← hunused, List.isEmpty_iff.1 hnone]
      rfl
    · rfl
  · intro hall
    rw [hpropose, if_pos (hempty.2 hall)]
    rfl
  · intro hne hnone
    have hsome : ¬ ∀ m ∈ localNames n, isUsedName f m = true := by
      intro hall
      obtain ⟨m, hm⟩ := List.exists_mem_of_ne_nil _ hne
      have := hall m hm
      rw [hnone m hm] at this
      cases this
    rw [hpropose, if_neg (mt hempty.1 hsome), if_pos (hwhole.2 hnone)]
  · rintro ⟨m, hm, hused⟩ ⟨m', hm', hnot⟩
    have hsome : ¬ ∀ m ∈ localNames n, isUsedName f m = true := fun hall => by simp [hall m' hm'] at hnot
    have hother : ¬ ∀ m ∈ localNames n, isUsedName f m = false := fun hnone => by simp [hnone m hm] at hused
    rw [hpropose, if_neg (mt hempty.1 hsome), if_neg (mt hwhole.1 hother)]
    exact exists_text_of_edits hn hbound hname h ⟨m, hm, hused⟩ ⟨m', hm', hnot⟩

/-- A statement with a default name and a list of three, of which the first and the last are used. -/
def mixed : Tree where
  source := "import d, { a, b as c, e } from \"m\"; a(e);"
  dialect := .javascript
  root := BareNode.place 0 <| .regular .program none 0 42 [.importing parts, .called 37 38 41]
where
  entries : BareNode := .braced .namedImports none 10 26
    [.specifier .importSpecifier 12 13, .sign "," 13,
     .regular .importSpecifier none 15 21
      [.identifier (some .name) 15 16, .token (.other "as") none 17 19, .identifier (some .asName) 20 21],
     .sign "," 21, .specifier .importSpecifier 23 24]
  parts : BareNode := .regular .importClause none 7 26 [.identifier none 7 8, .sign "," 8, entries]
  default : Node := BareNode.place 6 (.identifier none 7 8)
  list : Node := entries.place 9
  clause : Node := parts.place 6
  statement : Node := BareNode.place 0 (.importing parts)

/-- The default name and the second entry go. -/
theorem used_names_stay_in_mixed :
    let f := Facts.ofTree mixed .standard
    (proposeFor f mixed.statement).changes = ["d", "c"] ∧
      ∃ set, EditSet.merge (proposeFor f mixed.statement).edits = .ok set ∧
        set.apply mixed.source = .ok "import { a, e } from \"m\"; a(e);" := by
  intro f
  have h : mixed.clause.HasImportParts (some mixed.default) (some mixed.list) := by
    refine ⟨rfl, ?_, ?_⟩
    · rintro d ⟨⟩
      rfl
    · rintro r ⟨⟩
      exact .inr ⟨rfl, by decide +kernel⟩
  obtain ⟨hchanges, -, -, -, hmixed, -⟩ :=
    used_names_stay_in_statement f (s := mixed.statement) (n := mixed.clause) rfl h (by decide +kernel)
      (by decide +kernel) (by decide +kernel)
  obtain ⟨first, last, set, hfirst, hlast, hmerge, happly⟩ := hmixed (by decide +kernel) (by decide +kernel)
  obtain rfl : mixed.default = first := Option.some.inj hfirst
  obtain rfl : mixed.list = last := Option.some.inj hlast
  refine ⟨hchanges.trans (by decide +kernel), set, hmerge, happly.trans (congrArg Except.ok ?_)⟩
  decide +kernel

end UnusedImports

end ScriptTidy
