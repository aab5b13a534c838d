import ScriptTidy.Proofs.Names.Regions
import ScriptTidy.Proofs.Names.Sites

/-!
# What the regions declare

`Outline.entries` lists the declarations that a region takes from an outline: its own, without those by `var` if it is
no function and no file, and the declarations by `var` in the regions inside of it, as far as no function is in between.
An entry is marked if an export statement of the region itself makes it. `Outline.tables` has the entries of every
region.

All that a binding knows of its declarations is its `Profile`, which the entries of its name determine: the first one
gives the kind and tells whether it is exported, and all together give the places. While the parts of a region are
read, their entries are added to it (`profileAt_record`). So the bindings of a scope tree are exactly the profiles of
the names in the tables (`exists_table`, `exists_binding`).
-/

namespace ScriptTidy

/-- A region takes its own declarations, but those by `var` only if it is a function or the file. -/
def ScopeKind.accepts (kind : ScopeKind) (how : BindingKind) : Bool := how ≠ .varName || kind.isFunctionLike

/-- A declaration as the region that takes it sees it. -/
structure TableEntry where
  name : String
  kind : BindingKind
  site : Site
  /-- An export statement of the region makes it. -/
  marked : Bool
  deriving DecidableEq, Repr

namespace Outline

/-- The declarations that an outline makes for a region around it, which accepts some kinds of them. The region is the
nearest one if the outline stands in it directly. -/
def entries (accepts : BindingKind → Bool) (direct : Bool) : Outline → List TableEntry
  | declare kind name site => if accepts kind then [⟨name, kind, site, false⟩] else []
  | refer _ _ => []
  | scope kind _ parts => entriesAll (fun how => how = .varName && !kind.isFunctionLike && accepts how) false parts
  | exported parts => (entriesAll accepts direct parts).map fun e => { e with marked := e.marked || direct }
where
  entriesAll (accepts : BindingKind → Bool) (direct : Bool) : List Outline → List TableEntry
    | [] => []
    | o :: os => o.entries accepts direct ++ entriesAll accepts direct os

/-- The entries of all regions of an outline, each region in front of those inside of it. -/
def tables : Outline → List (List TableEntry)
  | declare _ _ _ => []
  | refer _ _ => []
  | scope kind _ parts => entries.entriesAll kind.accepts true parts :: tablesAll parts
  | exported parts => tablesAll parts
where
  tablesAll : List Outline → List (List TableEntry)
    | [] => []
    | o :: os => o.tables ++ tablesAll os

open entries

@[simp] theorem entriesAll_nil (accepts : BindingKind → Bool) (direct : Bool) : entriesAll accepts direct [] = [] := rfl

@[simp] theorem entriesAll_append (accepts : BindingKind → Bool) (direct : Bool) (os ps : List Outline) :
    entriesAll accepts direct (os ++ ps) = entriesAll accepts direct os ++ entriesAll accepts direct ps := by
  induction os with
  | nil => rfl
  | cons o os ih => simp [entriesAll, ih]

theorem mem_entriesAll {accepts : BindingKind → Bool} {direct : Bool} {os : List Outline} {e : TableEntry} :
    e ∈ entriesAll accepts direct os ↔ ∃ o ∈ os, e ∈ o.entries accepts direct := by
  induction os with
  | nil => simp [entriesAll]
  | cons o os ih => simp [entriesAll, ih]

/-- A region gets only what it accepts. -/
theorem accepts_of_entries : ∀ (o : Outline) {accepts : BindingKind → Bool} {direct : Bool} {e : TableEntry},
    e ∈ o.entries accepts direct → accepts e.kind = true
  | declare kind name site, accepts, direct, e, h => by
    unfold entries at h
    split at h
    · rw [List.mem_singleton.1 h]
      assumption
    · cases h
  | refer name site, accepts, direct, e, h => by cases h
  | scope kind span parts, accepts, direct, e, h => by
    have hinner := accepts_of_entriesAll parts h
    rw [Bool.and_eq_true] at hinner
    exact hinner.2
  | exported parts, accepts, direct, e, h => by
    obtain ⟨inner, hinner, rfl⟩ := List.mem_map.1 h
    exact accepts_of_entriesAll parts (e := inner) hinner
where
  accepts_of_entriesAll : ∀ (os : List Outline) {accepts : BindingKind → Bool} {direct : Bool} {e : TableEntry},
      e ∈ entriesAll accepts direct os → accepts e.kind = true
    | [], accepts, direct, e, h => by cases h
    | o :: os, accepts, direct, e, h => by
      rcases List.mem_append.1 h with h | h
      · exact accepts_of_entries o h
      · exact accepts_of_entriesAll os h

/-- A region that accepts nothing gets nothing. -/
theorem entriesAll_of_none {accepts : BindingKind → Bool} (h : ∀ how, accepts how = false) (direct : Bool)
    (os : List Outline) : entriesAll accepts direct os = [] := by
  refine List.eq_nil_iff_forall_not_mem.2 fun e he => ?_
  have haccepts := accepts_of_entries.accepts_of_entriesAll os he
  rw [h] at haccepts
  cases haccepts

end Outline

/-! ### Profiles -/

/-- What a binding knows of its declarations. -/
structure Profile where
  kind : BindingKind
  sites : List Site
  exported : Bool
  deriving DecidableEq, Repr

def Binding.profile (b : Binding) : Profile := ⟨b.kind, b.sites, b.exported⟩

namespace Profile

def mark (p : Profile) : Profile := { p with exported := true }

/-- What more declarations make of a profile, or of none. -/
def extend : Option Profile → List TableEntry → Option Profile
  | none, [] => none
  | none, e :: es => some ⟨e.kind, (e :: es).map (·.site), e.marked⟩
  | some p, es => some { p with sites := p.sites ++ es.map (·.site) }

/-- The profile of a name in a table, if the table has the name. -/
def ofTable? (name : String) (table : List TableEntry) : Option Profile := extend none (table.filter (·.name = name))

@[simp] theorem extend_nil (p? : Option Profile) : extend p? [] = p? := by
  cases p? <;> simp [extend]

private theorem extend_append (p? : Option Profile) (es fs : List TableEntry) :
    extend p? (es ++ fs) = extend (extend p? es) fs := by
  cases p? with
  | none => cases es <;> simp [extend]
  | some p => simp [extend]

/-- Marks count on the first entry alone. -/
private theorem extend_mark (p? : Option Profile) (es : List TableEntry) :
    extend p? (es.map fun e => { e with marked := true }) =
      if p? = none then (extend p? es).map mark else extend p? es := by
  cases p? with
  | none => cases es <;> simp [extend, mark, Function.comp_def]
  | some p => simp [extend, Function.comp_def]

theorem sites_extend (p? : Option Profile) (es : List TableEntry) :
    (extend p? es).elim [] (·.sites) = p?.elim [] (·.sites) ++ es.map (·.site) := by
  cases p? with
  | none => cases es <;> rfl
  | some p => rfl

/-- A name has a profile if the table has the name. The first entry tells the kind and the mark. -/
theorem ofTable?_eq_some_iff {name : String} {table : List TableEntry} {p : Profile} : ofTable? name table = some p ↔
    ∃ e es, table.filter (·.name = name) = e :: es ∧ ⟨e.kind, (e :: es).map (·.site), e.marked⟩ = p := by
  unfold ofTable?
  cases table.filter (·.name = name) with
  | nil => simp [extend]
  | cons e es => simp [extend]

theorem sites_ofTable? {name : String} {table : List TableEntry} {p : Profile} (h : ofTable? name table = some p) :
    p.sites = (table.filter (·.name = name)).map (·.site) := by
  obtain ⟨e, es, hnamed, rfl⟩ := ofTable?_eq_some_iff.1 h
  rw [hnamed]

end Profile

namespace ScopeRecord

open Outline.entries (entriesAll)

variable {P : Mention → Prop} {d d' : ScopeRecord} {opened : List Nat}

/-- The profile of the binding that a region declares under a name. -/
def profileAt (d : ScopeRecord) (id : Nat) (name : String) : Option Profile :=
  ((d.scopes[id]?.bind (·.lookup name)).bind (d.bindings[·]?)).map Binding.profile

private theorem profileAt_of_lookup {id b : Nat} {s : Scope} {name : String} {bd : Binding}
    (hs : d.scopes[id]? = some s) (hlookup : s.lookup name = some b) (hb : d.bindings[b]? = some bd) :
    d.profileAt id name = some bd.profile := by
  simp [profileAt, hs, hlookup, hb]

private theorem profileAt_of_lookup_eq_none {id : Nat} {name : String} (h : d.scopes[id]?.bind (·.lookup name) = none) :
    d.profileAt id name = none := by
  simp [profileAt, h]

/-- A region has a profile under a name exactly if a binding of the region has the name. -/
private theorem Sound.profileAt_eq_some_iff (h : Sound P d) {id : Nat} {name : String} {p : Profile} :
    d.profileAt id name = some p ↔
      ∃ (b : Nat) (bd : Binding), d.bindings[b]? = some bd ∧ bd.scope = id ∧ bd.name = name ∧ bd.profile = p := by
  constructor
  · intro hp
    obtain ⟨bd, hbd, rfl⟩ := Option.map_eq_some_iff.1 hp
    obtain ⟨b, hb, hbd⟩ := Option.bind_eq_some_iff.1 hbd
    obtain ⟨s, hs, hlookup⟩ := Option.bind_eq_some_iff.1 hb
    obtain ⟨bd', hbd', hscope, hname⟩ := (h.lookup_iff hs name b).1 hlookup
    obtain rfl : bd = bd' := Option.some.inj (hbd.symm.trans hbd')
    exact ⟨b, bd, hbd, hscope, hname, rfl⟩
  · rintro ⟨b, bd, hbd, rfl, hname, rfl⟩
    have hs := Array.getElem?_eq_getElem (h.scope_lt hbd)
    exact profileAt_of_lookup hs ((h.lookup_iff hs name b).2 ⟨bd, hbd, rfl, hname⟩) hbd

/-! ### What the changes of a record declare -/

private theorem profileAt_addSite (h : Sound P d) {home b : Nat} {s : Scope} {name : String}
    (hs : d.scopes[home]? = some s) (hlookup : s.lookup name = some b) (how : BindingKind) (site : Site) (id : Nat)
    (other : String) : (d.addSite b site).profileAt id other = Profile.extend (d.profileAt id other)
      (if home = id ∧ name = other then [⟨name, how, site, false⟩] else []) := by
  obtain ⟨bd, hb, hhome, hname⟩ := (h.lookup_iff hs name b).1 hlookup
  have hscopes : (d.addSite b site).scopes = d.scopes := rfl
  cases hother : d.scopes[id]?.bind (·.lookup other) with
  | none =>
    have hne : ¬ (home = id ∧ name = other) := by
      rintro ⟨rfl, rfl⟩
      simp [hs, hlookup] at hother
    rw [profileAt_of_lookup_eq_none hother, profileAt_of_lookup_eq_none (hscopes ▸ hother), if_neg hne,
      Profile.extend_nil]
  | some c =>
    obtain ⟨s', hs', hlookup'⟩ := Option.bind_eq_some_iff.1 hother
    obtain ⟨cd, hc, hid, hname'⟩ := (h.lookup_iff hs' other c).1 hlookup'
    by_cases hsame : b = c
    · -- the binding that gets the site is the one that is looked up
      subst hsame
      obtain rfl : bd = cd := Option.some.inj (hb.symm.trans hc)
      have hb' : (d.addSite b site).bindings[b]? = some { bd with sites := bd.sites ++ [site] } := by
        rw [getElem?_bindings_addSite, if_pos rfl, hb]
        rfl
      rw [profileAt_of_lookup hs' hlookup' hb, profileAt_of_lookup (d := d.addSite b site) hs' hlookup' hb',
        if_pos ⟨hhome.symm.trans hid, hname.symm.trans hname'⟩]
      rfl
    · have hc' : (d.addSite b site).bindings[c]? = some cd := by
        rw [getElem?_bindings_addSite, if_neg hsame, hc]
      have hne : ¬ (home = id ∧ name = other) := by
        rintro ⟨rfl, rfl⟩
        obtain rfl : s = s' := Option.some.inj (hs.symm.trans hs')
        exact hsame (Option.some.inj (hlookup.symm.trans hlookup'))
      rw [profileAt_of_lookup hs' hlookup' hc, profileAt_of_lookup (d := d.addSite b site) hs' hlookup' hc',
        if_neg hne, Profile.extend_nil]

private theorem profileAt_addBinding (h : Sound P d) {home : Nat} (hhome : home < d.scopes.size) {name : String}
    (hfree : d.scopes[home]?.bind (·.lookup name) = none) (how : BindingKind) (site : Site) (id : Nat)
    (other : String) : (d.addBinding home how name site).profileAt id other = Profile.extend (d.profileAt id other)
      (if home = id ∧ name = other then [⟨name, how, site, false⟩] else []) := by
  have hlookup : (d.addBinding home how name site).scopes[id]?.bind (·.lookup other) =
      if home = id ∧ name = other then some d.bindings.size else d.scopes[id]?.bind (·.lookup other) := by
    simp only [addBinding, Array.getElem?_modify]
    by_cases hid : home = id
    · subst hid
      rw [if_pos rfl, Array.getElem?_eq_getElem hhome, Option.map_some, Option.bind_some, Option.bind_some]
      by_cases hname : name = other
      · subst hname
        rw [Scope.lookup_declared_self, if_pos ⟨rfl, rfl⟩]
      · rw [Scope.lookup_declared_of_ne _ _ (Ne.symm hname), if_neg fun hboth => hname hboth.2]
    · rw [if_neg hid, if_neg fun hboth => hid hboth.1]
  unfold profileAt
  rw [hlookup]
  by_cases hboth : home = id ∧ name = other
  · obtain ⟨rfl, rfl⟩ := hboth
    simp [hfree, addBinding, Binding.profile, Profile.extend]
  · rw [if_neg hboth, if_neg hboth, Profile.extend_nil]
    cases hother : d.scopes[id]?.bind (·.lookup other) with
    | none => rfl
    | some b =>
      obtain ⟨s, hs, hb⟩ := Option.bind_eq_some_iff.1 hother
      obtain ⟨bd, hbd, -, -⟩ := (h.lookup_iff hs other b).1 hb
      have hlt := (Array.getElem?_eq_some_iff.1 hbd).1
      simp [addBinding, Array.getElem?_push, Nat.ne_of_lt hlt]

/-- A declaration adds an entry to the region that it belongs to, and nothing elsewhere. -/
private theorem profileAt_declare (h : Sound P d) (hopen : d.IsOpen opened) (how : BindingKind) (name : String)
    (site : Site) (id : Nat) (other : String) : (d.declare opened how name site).profileAt id other =
      Profile.extend (d.profileAt id other)
        (if d.home opened how = id ∧ name = other then [⟨name, how, site, false⟩] else []) := by
  unfold declare
  dsimp only
  split
  · rename_i b hb
    obtain ⟨s, hs, hlookup⟩ := Option.bind_eq_some_iff.1 hb
    exact profileAt_addSite h hs hlookup how site id other
  · rename_i hfree
    exact profileAt_addBinding h (hopen.home_lt how) hfree how site id other

private theorem profileAt_openScope_of_lt {id : Nat} (hid : id < d.scopes.size) (kind : ScopeKind) (span : Span)
    (name : String) : (d.openScope opened kind span).profileAt id name = d.profileAt id name := by
  simp [profileAt, openScope, Array.getElem?_push, Nat.ne_of_lt hid]

/-- A region that is being opened declares nothing yet. -/
private theorem profileAt_openScope_self (kind : ScopeKind) (span : Span) (name : String) :
    (d.openScope opened kind span).profileAt d.scopes.size name = none := by
  simp [profileAt, openScope, Scope.lookup]

/-- Bindings keep their regions and names. -/
private theorem declares_recordAll (os : List Outline) (hopen : d.IsOpen opened) {scope b : Nat} {name : String}
    (h : Declares d.bindings scope name b) :
    Declares (Outline.record.recordAll opened os d).bindings scope name b := by
  have hkept : Kept (fun _ => True) fun d' => Declares d'.bindings scope name b := by
    refine ⟨?_, fun d' opened name' site _ _ hd' => hd', fun d' opened kind span _ hd' => hd', ?_⟩
    · intro d' opened how name' site _ _ hd'
      unfold declare
      dsimp only
      split
      · rename_i id _
        have hsite : ∀ b, (d'.addSite id site).bindings[b]? = d'.bindings[b]?.map fun bd =>
            if id = b then { bd with sites := bd.sites ++ [site] } else bd := by
          intro b
          rw [getElem?_bindings_addSite]
          split <;> simp
        refine (Declares.change_iff hsite (fun b bd => ?_) fun b bd => ?_).2 hd'
        · split <;> rfl
        · split <;> rfl
      · exact Declares.push_iff.2 (.inr hd')
    · intro d' first home hd'
      refine (Declares.change_iff (fun b => getElem?_bindings_markExported first home b) (fun b bd => ?_)
        fun b bd => ?_).2 hd'
      · split <;> rfl
      · split <;> rfl
  exact (Kept.record.recordAll hkept os opened d (fun _ _ => trivial) hopen h).1

/-- Of the bindings of a region those are marked that are new since `d`. -/
private theorem profileAt_markExported (hd : Sound P d) (hd' : Sound P d')
    (hkeeps : ∀ {scope b : Nat} {name : String}, Declares d.bindings scope name b → Declares d'.bindings scope name b)
    (id scope : Nat) (name : String) :
    (d'.markExported d.bindings.size scope).profileAt id name =
      if scope = id ∧ d.profileAt id name = none then (d'.profileAt id name).map Profile.mark
      else d'.profileAt id name := by
  have hscopes : (d'.markExported d.bindings.size scope).scopes = d'.scopes := rfl
  cases hlookup : d'.scopes[id]?.bind (·.lookup name) with
  | none =>
    rw [profileAt_of_lookup_eq_none hlookup, profileAt_of_lookup_eq_none (hscopes ▸ hlookup)]
    simp
  | some b =>
    obtain ⟨s, hs, hb⟩ := Option.bind_eq_some_iff.1 hlookup
    obtain ⟨bd, hbd, hhome, hname⟩ := (hd'.lookup_iff hs name b).1 hb
    -- the binding is new exactly if the region did not have the name before
    have hnew : d.profileAt id name = none ↔ d.bindings.size ≤ b := by
      constructor
      · intro hnone
        by_contra hlt
        have hold := Array.getElem?_eq_getElem (Nat.lt_of_not_le hlt)
        obtain ⟨bd', hbd', hhome', hname'⟩ := hkeeps ⟨_, hold, rfl, rfl⟩
        obtain rfl : bd = bd' := Option.some.inj (hbd.symm.trans hbd')
        have hsome := hd.profileAt_eq_some_iff.2
          ⟨b, _, hold, hhome'.symm.trans hhome, hname'.symm.trans hname, rfl⟩
        rw [hnone] at hsome
        cases hsome
      · intro hle
        refine Option.eq_none_iff_forall_ne_some.2 fun p hp => ?_
        obtain ⟨c, cd, hcd, hcscope, hcname, -⟩ := hd.profileAt_eq_some_iff.1 hp
        have hlt := (Array.getElem?_eq_some_iff.1 hcd).1
        have hc := (hd'.lookup_iff hs name c).2 (hkeeps ⟨cd, hcd, hcscope, hcname⟩)
        have heq := Option.some.inj (hb.symm.trans hc)
        omega
    have hmarked := getElem?_bindings_markExported (d := d') d.bindings.size scope b
    rw [hbd, Option.map_some] at hmarked
    rw [profileAt_of_lookup hs hb hbd, profileAt_of_lookup (hscopes ▸ hs) hb hmarked]
    by_cases hboth : scope = id ∧ d.profileAt id name = none
    · rw [if_pos hboth, if_pos ⟨hnew.1 hboth.2, hhome.trans hboth.1.symm⟩]
      rfl
    · rw [if_neg hboth, if_neg fun h => hboth ⟨h.2.symm.trans hhome, hnew.2 h.1⟩]

/-! ### Where declarations belong -/

theorem frames_record (o : Outline) (hopen : d.IsOpen opened) : d.frames <+: (o.record opened d).frames :=
  (keeps_frames.record o opened d (fun _ _ => trivial) hopen List.prefix_rfl).1
where
  keeps_frames : Kept (fun _ => True) fun d' => d.frames <+: d'.frames :=
    { declare := fun d' opened how name site _ _ h => by rwa [frames_declare]
      refer := fun d' opened name site _ _ h => by rwa [frames_refer]
      openScope := fun d' opened kind span _ h => by
        rw [frames_openScope]
        exact h.trans (List.prefix_append _ _)
      markExported := fun d' first scope h => by rwa [frames_markExported] }

theorem frames_recordAll (os : List Outline) (hopen : d.IsOpen opened) :
    d.frames <+: (Outline.record.recordAll opened os d).frames :=
  (Kept.record.recordAll frames_record.keeps_frames os opened d (fun _ _ => trivial) hopen List.prefix_rfl).1

theorem size_le_of_frames (h : d.frames <+: d'.frames) : d.scopes.size ≤ d'.scopes.size := by
  simpa using h.length_le

/-- More regions do not change where a declaration belongs. -/
theorem home_of_frames (h : d.frames <+: d'.frames) (hopen : d.IsOpen opened) (how : BindingKind) :
    d'.home opened how = d.home opened how := by
  have hkind : ∀ id ∈ opened,
      d'.scopes[id]?.any (·.kind.isFunctionLike) = d.scopes[id]?.any (·.kind.isFunctionLike) := by
    intro id hid
    have hframe : d'.scopes[id]?.map Scope.frame = d.scopes[id]?.map Scope.frame := by
      obtain ⟨more, hmore⟩ := h
      have hlt : id < d.frames.length := by simpa using hopen.lt_size id hid
      rw [← getElem?_frames, ← getElem?_frames, ← hmore, List.getElem?_append_left hlt]
    have hany := congrArg (Option.any fun f => f.kind.isFunctionLike) hframe
    rwa [Option.any_map, Option.any_map] at hany
  unfold home hoistTarget
  rw [List.find?_congr hkind]

/-- Inside a new region, declarations belong to it, unless they are made by `var` and it is no function. -/
theorem home_openScope (hopen : d.IsOpen opened) (kind : ScopeKind) (span : Span) (how : BindingKind) :
    (d.openScope opened kind span).home (d.scopes.size :: opened) how =
      if kind.accepts how then d.scopes.size else d.home opened how := by
  have hprefix : d.frames <+: (d.openScope opened kind span).frames := by simp
  have hold := home_of_frames hprefix hopen how
  by_cases hvar : how = .varName
  · subst hvar
    cases hkind : kind.isFunctionLike <;>
      simp_all [home, hoistTarget, openScope, ScopeKind.accepts]
  · simp [home, hvar, ScopeKind.accepts, current]

/-! ### What an outline declares -/

/-- An outline adds to a region the entries that it makes for it. -/
theorem profileAt_record : ∀ (o : Outline) (opened : List Nat) (d : ScopeRecord) (id : Nat) (name : String),
    d.IsOpen opened → Sound (fun _ => True) d → id < d.scopes.size →
      (o.record opened d).profileAt id name = Profile.extend (d.profileAt id name)
        ((o.entries (fun how => d.home opened how = id) (current opened = id)).filter (·.name = name))
  | .declare how declared site, opened, d, id, name, hopen, hd, _ => by
    rw [Outline.record, profileAt_declare hd hopen, Outline.entries]
    by_cases hhome : d.home opened how = id <;> by_cases hname : declared = name <;> simp [hhome, hname]
  | .refer _ site, opened, d, id, name, _, _, _ => by
    simp [Outline.record, refer, profileAt, Outline.entries]
  | .scope kind span parts, opened, d, id, name, hopen, hd, hid => by
    have hsize : (d.openScope opened kind span).scopes.size = d.scopes.size + 1 := by simp [openScope]
    have hne : d.scopes.size ≠ id := by omega
    rw [Outline.record, profileAt_recordAll parts _ _ id name (.openScope hopen.lt_size kind span)
      ((Sound.kept _).openScope d opened kind span hopen hd) (by omega), profileAt_openScope_of_lt hid,
      Outline.entries]
    -- of what is declared inside the new region, the region `id` takes what belongs to it
    congr 3
    · funext how
      rw [home_openScope hopen]
      by_cases haccepts : kind.accepts how = true
      · rw [if_pos haccepts]
        rw [ScopeKind.accepts, Bool.or_eq_true] at haccepts
        rcases haccepts with hvar | hfunction
        · simp_all
        · simp [hfunction, hne]
      · rw [if_neg haccepts]
        simp only [ScopeKind.accepts, Bool.or_eq_true, not_or, decide_eq_true_eq, Decidable.not_not] at haccepts
        simp [haccepts.1, haccepts.2]
    · simp [current, hne]
  | .exported parts, opened, d, id, name, hopen, hd, hid => by
    have hd' := (Kept.record.recordAll (Sound.kept fun _ => True) parts opened d (fun _ _ => trivial) hopen hd).1
    rw [Outline.record, profileAt_markExported hd hd' (declares_recordAll parts hopen),
      profileAt_recordAll parts opened d id name hopen hd hid, Outline.entries, List.filter_map]
    by_cases hcurrent : current opened = id
    · simp only [hcurrent, true_and, decide_true, Bool.or_true, Profile.extend_mark, Function.comp_def]
    · simp [hcurrent, Function.comp_def]
where
  profileAt_recordAll : ∀ (os : List Outline) (opened : List Nat) (d : ScopeRecord) (id : Nat) (name : String),
      d.IsOpen opened → Sound (fun _ => True) d → id < d.scopes.size →
        (Outline.record.recordAll opened os d).profileAt id name = Profile.extend (d.profileAt id name)
          ((entriesAll (fun how => d.home opened how = id) (current opened = id) os).filter (·.name = name))
    | [], opened, d, id, name, _, _, _ => by simp [Outline.record.recordAll]
    | o :: os, opened, d, id, name, hopen, hd, hid => by
      obtain ⟨hd', hsize⟩ := (Sound.kept _).record o opened d (fun _ _ => trivial) hopen hd
      have hhome : ∀ how, (o.record opened d).home opened how = d.home opened how :=
        home_of_frames (frames_record o hopen) hopen
      have hid' : id < (o.record opened d).scopes.size := Nat.lt_of_lt_of_le hid hsize
      have hfirst := profileAt_record o opened d id name hopen hd hid
      have hrest := profileAt_recordAll os opened (o.record opened d) id name (hopen.mono hsize) hd' hid'
      rw [Outline.record.recordAll, hrest, hfirst, ← Profile.extend_append, ← List.filter_append]
      simp only [hhome, entriesAll]

/-- What is read later leaves a region alone that is not open any more. -/
private theorem profileAt_of_closed (os : List Outline) (hopen : d.IsOpen opened) (hd : Sound (fun _ => True) d)
    {id : Nat} (hid : id < d.scopes.size) (hclosed : ∀ how, d.home opened how ≠ id) (name : String) :
    (Outline.record.recordAll opened os d).profileAt id name = d.profileAt id name := by
  rw [profileAt_record.profileAt_recordAll os opened d id name hopen hd hid,
    Outline.entriesAll_of_none fun how => decide_eq_false (hclosed how), List.filter_nil, Profile.extend_nil]

/-- The profiles of the regions, from a number on. -/
def profilesFrom (d : ScopeRecord) (first : Nat) : List (String → Option Profile) :=
  (List.range' first (d.scopes.size - first)).map d.profileAt

/-- The regions that an outline opens declare what is in its tables. -/
private theorem profiles_record : ∀ (o : Outline) {opened : List Nat} {d : ScopeRecord}, d.IsOpen opened →
    Sound (fun _ => True) d →
      (o.record opened d).profilesFrom d.scopes.size = o.tables.map fun table name => Profile.ofTable? name table
  | .declare how name site, opened, d, _, _ => by simp [Outline.record, profilesFrom, Outline.tables]
  | .refer name site, opened, d, _, _ => by simp [Outline.record, profilesFrom, Outline.tables]
  | .scope kind span parts, opened, d, hopen, hd => by
    have hsize : (d.openScope opened kind span).scopes.size = d.scopes.size + 1 := by simp [openScope]
    have hopen' := IsOpen.openScope hopen.lt_size kind span
    have hd' := (Sound.kept _).openScope d opened kind span hopen hd
    have hle := size_le_of_frames (frames_recordAll parts hopen')
    have hparts := profiles_recordAll parts hopen' hd'
    rw [hsize] at hle hparts
    have hregions : (Outline.record opened (.scope kind span parts) d).scopes.size - d.scopes.size =
        (Outline.record opened (.scope kind span parts) d).scopes.size - (d.scopes.size + 1) + 1 := by
      rw [Outline.record]
      omega
    rw [profilesFrom, hregions, List.range'_succ, List.map_cons, Outline.tables, List.map_cons]
    congr 1
    -- the new region takes what its parts declare for it
    funext name
    rw [Outline.record, profileAt_record.profileAt_recordAll parts _ _ _ name hopen' hd' (by omega),
      profileAt_openScope_self, Profile.ofTable?]
    congr 3
    · funext how
      have hlt := hopen.home_lt how
      rw [home_openScope hopen]
      cases kind.accepts how with
      | true => simp
      | false => simp [Nat.ne_of_lt hlt]
    · simp [current]
  | .exported parts, opened, d, hopen, hd => by
    have hd' := (Kept.record.recordAll (Sound.kept fun _ => True) parts opened d (fun _ _ => trivial) hopen hd).1
    rw [Outline.tables, ← profiles_recordAll parts hopen hd, Outline.record, profilesFrom, profilesFrom,
      size_scopes_markExported]
    -- only the innermost open region is marked, and that is an older one
    refine List.map_congr_left fun id hid => funext fun name => ?_
    have hne : current opened ≠ id := by
      have hle := (List.mem_range'_1.1 hid).1
      have hlt := hopen.current_lt
      omega
    rw [profileAt_markExported hd hd' (declares_recordAll parts hopen), if_neg fun h => hne h.1]
where
  profiles_recordAll : ∀ (os : List Outline) {opened : List Nat} {d : ScopeRecord}, d.IsOpen opened →
      Sound (fun _ => True) d → (Outline.record.recordAll opened os d).profilesFrom d.scopes.size =
        (Outline.tables.tablesAll os).map fun table name => Profile.ofTable? name table
    | [], opened, d, _, _ => by simp [Outline.record.recordAll, profilesFrom, Outline.tables.tablesAll]
    | o :: os, opened, d, hopen, hd => by
      obtain ⟨hd', hsize⟩ := (Sound.kept _).record o opened d (fun _ _ => trivial) hopen hd
      have hopen' := hopen.mono hsize
      have hsize' := size_le_of_frames (frames_recordAll os hopen')
      rw [Outline.tables.tablesAll, List.map_append, ← profiles_record o hopen hd, ← profiles_recordAll os hopen' hd',
        Outline.record.recordAll, profilesFrom, profilesFrom, profilesFrom]
      have hrange : (Outline.record.recordAll opened os (o.record opened d)).scopes.size - d.scopes.size =
          ((o.record opened d).scopes.size - d.scopes.size) +
            ((Outline.record.recordAll opened os (o.record opened d)).scopes.size -
              (o.record opened d).scopes.size) := by omega
      rw [hrange, ← List.range'_append_1, List.map_append]
      congr 1
      · -- the regions that the first part opens are closed when the others are read
        refine List.map_congr_left fun id hid => funext fun name => ?_
        obtain ⟨hle, hlt⟩ := List.mem_range'_1.1 hid
        refine profileAt_of_closed os hopen' hd' (by omega) (fun how => ?_) name
        have hhome := hopen.home_lt how
        rw [home_of_frames (frames_record o hopen) hopen]
        omega
      · congr 2
        omega

end ScopeRecord

/-! ### The whole scope tree -/

namespace ScopeTree

/-- The regions of a file declare what is in the tables of its outline. -/
private theorem profiles_outline (t : Tree) : (t.outline.record [] .empty).profilesFrom 0 =
    t.outline.tables.map fun table name => Profile.ofTable? name table := by
  let start := ScopeRecord.empty.openScope [] .file t.root.fullSpan
  let parts := Node.outline.outlineAll t.source (fun _ => some .code) t.root.children
  let last := Outline.record.recordAll [0] parts start
  have hopen : start.IsOpen [0] := .openScope (by simp) .file t.root.fullSpan
  have hsound : ScopeRecord.Sound (fun _ => True) start := ScopeRecord.sound_file _ _
  have hparts := ScopeRecord.profiles_record.profiles_recordAll parts hopen hsound
  have hsize : start.scopes.size = 1 := rfl
  have hle : 1 ≤ last.scopes.size := ScopeRecord.size_le_of_frames (ScopeRecord.frames_recordAll parts hopen)
  have hregions : last.scopes.size - 0 = last.scopes.size - 1 + 1 := by omega
  rw [show t.outline.record [] .empty = last from rfl, ScopeRecord.profilesFrom, hregions, List.range'_succ,
    List.map_cons, Tree.outline, Outline.tables, List.map_cons]
  congr 1
  -- every declaration directly in the file belongs to it
  funext name
  rw [ScopeRecord.profileAt_record.profileAt_recordAll parts _ _ _ name hopen hsound (by omega),
    show start.profileAt 0 name = none from rfl, Profile.ofTable?]
  congr 3
  funext how
  have hhome : start.home [0] how = 0 := by
    cases how <;> rfl
  simp [hhome, ScopeKind.accepts, ScopeKind.isFunctionLike]

variable {t : Tree}

/-- A binding has the profile of its name in some table. -/
theorem exists_table {id : Nat} {b : Binding} (hb : (ofTree t).bindings[id]? = some b) :
    ∃ table ∈ t.outline.tables, Profile.ofTable? b.name table = some b.profile := by
  have hsound := ScopeRecord.sound_outline t
  have hprofile : (t.outline.record [] .empty).profileAt b.scope b.name = some b.profile :=
    hsound.profileAt_eq_some_iff.2 ⟨id, b, hb, rfl, rfl, rfl⟩
  have hmem : (t.outline.record [] .empty).profileAt b.scope ∈ (t.outline.record [] .empty).profilesFrom 0 :=
    List.mem_map_of_mem (List.mem_range'_1.2 ⟨Nat.zero_le _, by simpa using hsound.scope_lt hb⟩)
  rw [profiles_outline] at hmem
  obtain ⟨table, htable, heq⟩ := List.mem_map.1 hmem
  exact ⟨table, htable, (congrFun heq b.name).trans hprofile⟩

/-- A name in a table has a binding. -/
theorem exists_binding {table : List TableEntry} (htable : table ∈ t.outline.tables) {name : String} {p : Profile}
    (hp : Profile.ofTable? name table = some p) :
    ∃ (id : Nat) (b : Binding), (ofTree t).bindings[id]? = some b ∧ b.name = name ∧ b.profile = p := by
  have hmem := List.mem_map_of_mem (f := fun table name => Profile.ofTable? name table) htable
  rw [← profiles_outline] at hmem
  obtain ⟨scope, -, heq⟩ := List.mem_map.1 hmem
  obtain ⟨id, b, hb, -, hname, hprofile⟩ :=
    (ScopeRecord.sound_outline t).profileAt_eq_some_iff.1 ((congrFun heq name).trans hp)
  exact ⟨id, b, hb, hname, hprofile⟩

end ScopeTree

end ScriptTidy
