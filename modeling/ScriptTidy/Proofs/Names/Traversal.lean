import Mathlib.Data.List.Infix
import ScriptTidy.Proofs.Names.Tables

/-!
# Step by step through an outline

`Outline.record` hands the open regions down into the parts of an outline. Here the outline is one list of steps
(`Outline.steps`), and `ScopeBuilder` takes them one after another, with the open regions on a stack of its own. In the
end it has the same record (`run_steps`).

Along the way, between any two steps:

* each open region lies directly inside the next one on the stack (`Linked`), so that the stack is the chain of the
  innermost one (`chain_eq_of_linked`);
* the regions that were open at first still are, below the others (`suffix_stack`);
* what the four changes of a record keep is kept (`Kept.run`).
-/

namespace ScriptTidy

namespace Outline

/-- A step on the way through an outline. -/
inductive Step where
  | enter (kind : ScopeKind) (span : Span)
  | leave
  | declare (kind : BindingKind) (name : String) (site : Site)
  | refer (name : String) (site : Site)
  /-- An exported declaration begins. -/
  | beginExport
  | endExport
  deriving DecidableEq, Repr

/-- The way through an outline. -/
def steps : Outline → List Step
  | declare kind name site => [.declare kind name site]
  | refer name site => [.refer name site]
  | scope kind span parts => .enter kind span :: (stepsAll parts ++ [.leave])
  | exported parts => .beginExport :: (stepsAll parts ++ [.endExport])
where
  stepsAll : List Outline → List Step
    | [] => []
    | o :: os => o.steps ++ stepsAll os

open steps

end Outline

open Outline (Step)
open Outline.steps (stepsAll)

/-- What is known after some steps. -/
structure ScopeBuilder where
  record : ScopeRecord
  /-- The open regions, the innermost first. -/
  stack : List Nat
  /-- Of the exported declarations that have begun, how many bindings there were and which region was the innermost. -/
  exports : List (Nat × Nat)
  deriving Repr

namespace ScopeBuilder

variable {b : ScopeBuilder} {front back : List Step}

def start : ScopeBuilder := ⟨.empty, [], []⟩

def current (b : ScopeBuilder) : Nat := ScopeRecord.current b.stack

/-- The region that a declaration by `var` belongs to. -/
def hoistTarget (b : ScopeBuilder) : Nat := b.record.hoistTarget b.stack

def apply (b : ScopeBuilder) : Step → ScopeBuilder
  | .enter kind span =>
    { b with record := b.record.openScope b.stack kind span, stack := b.record.scopes.size :: b.stack }
  | .leave => { b with stack := b.stack.tail }
  | .declare kind name site => { b with record := b.record.declare b.stack kind name site }
  | .refer name site => { b with record := b.record.refer b.stack name site }
  | .beginExport => { b with exports := (b.record.bindings.size, b.current) :: b.exports }
  | .endExport =>
    match b.exports with
    | [] => b
    | (first, scope) :: rest => { b with record := b.record.markExported first scope, exports := rest }

def run (b : ScopeBuilder) (steps : List Step) : ScopeBuilder := steps.foldl apply b

@[simp] theorem run_cons (b : ScopeBuilder) (s : Step) (steps : List Step) :
    b.run (s :: steps) = (b.apply s).run steps := rfl

@[simp] theorem run_append (b : ScopeBuilder) (front back : List Step) :
    b.run (front ++ back) = (b.run front).run back := List.foldl_append

/-- The way through an outline leaves the stack as it was. -/
theorem run_steps : ∀ (o : Outline) (b : ScopeBuilder),
    b.run o.steps = { b with record := o.record b.stack b.record }
  | .declare _ _ _, _ => rfl
  | .refer _ _, _ => rfl
  | .scope kind span parts, b => by
    rw [Outline.steps, run_cons, run_append, run_stepsAll]
    rfl
  | .exported parts, b => by
    rw [Outline.steps, run_cons, run_append, run_stepsAll]
    rfl
where
  run_stepsAll : ∀ (os : List Outline) (b : ScopeBuilder),
      b.run (stepsAll os) = { b with record := Outline.record.recordAll b.stack os b.record }
    | [], _ => rfl
    | o :: os, b => by
      rw [stepsAll, run_append, run_steps o b, run_stepsAll os]
      rfl

/-! ### The stack -/

private theorem prefix_block_cases {opens closes : Step} {steps : List Step}
    (h : front <+: opens :: (steps ++ [closes])) :
    front = [] ∨ (∃ rest, rest <+: steps ∧ front = opens :: rest) ∨ front = opens :: (steps ++ [closes]) := by
  rcases List.prefix_cons_iff.1 h with rfl | ⟨rest, rfl, hrest⟩
  · exact .inl rfl
  · rcases List.prefix_concat_iff.1 hrest with rfl | hrest
    · exact .inr (.inr rfl)
    · exact .inr (.inl ⟨rest, hrest, rfl⟩)

/-- Along the way through an outline, what was on the stack at first stays below the rest. -/
theorem suffix_stack : ∀ (o : Outline) (b : ScopeBuilder) {front : List Step}, front <+: o.steps →
    b.stack <:+ (b.run front).stack
  | .declare kind name site, b, front, h => by
    rcases List.prefix_cons_iff.1 h with rfl | ⟨rest, rfl, hrest⟩
    · exact List.suffix_refl _
    · rw [List.prefix_nil.1 hrest]
      exact List.suffix_refl _
  | .refer name site, b, front, h => by
    rcases List.prefix_cons_iff.1 h with rfl | ⟨rest, rfl, hrest⟩
    · exact List.suffix_refl _
    · rw [List.prefix_nil.1 hrest]
      exact List.suffix_refl _
  | .scope kind span parts, b, front, h => by
    rcases prefix_block_cases h with rfl | ⟨rest, hrest, rfl⟩ | hall
    · exact List.suffix_refl _
    · exact (List.suffix_cons _ _).trans (suffix_stack_all parts (b.apply (.enter kind span)) hrest)
    · have hfront : front = (Outline.scope kind span parts).steps := hall
      rw [hfront, run_steps]
  | .exported parts, b, front, h => by
    rcases prefix_block_cases h with rfl | ⟨rest, hrest, rfl⟩ | hall
    · exact List.suffix_refl _
    · exact suffix_stack_all parts (b.apply .beginExport) hrest
    · have hfront : front = (Outline.exported parts).steps := hall
      rw [hfront, run_steps]
where
  suffix_stack_all : ∀ (os : List Outline) (b : ScopeBuilder) {front : List Step}, front <+: stepsAll os →
      b.stack <:+ (b.run front).stack
    | [], b, front, h => by
      rw [List.prefix_nil.1 h]
      exact List.suffix_refl _
    | o :: os, b, front, h => by
      obtain ⟨back, hback⟩ := h
      rcases List.append_eq_append_iff.1 hback with ⟨more, hmore, -⟩ | ⟨rest, rfl, hrest⟩
      · exact suffix_stack o b ⟨more, hmore.symm⟩
      · -- the first part is left behind, and with it all that it opened
        have hsuffix := suffix_stack_all os (b.run o.steps) ⟨back, hrest.symm⟩
        rw [run_append]
        rwa [run_steps] at hsuffix ⊢

/-- Each region lies directly inside the next one of the list, and the last one inside none. -/
def Linked (frames : List Frame) : List Nat → Prop
  | [] => True
  | id :: rest => (∃ f, frames[id]? = some f ∧ f.parent = rest.head?) ∧ Linked frames rest

private theorem Linked.lt_length {frames : List Frame} {ids : List Nat} (h : Linked frames ids) :
    ∀ id ∈ ids, id < frames.length := by
  induction ids with
  | nil => simp
  | cons id rest ih =>
    obtain ⟨⟨f, hf, -⟩, hrest⟩ := h
    intro id' hid'
    rcases List.mem_cons.1 hid' with rfl | hid'
    · exact (List.getElem?_eq_some_iff.1 hf).1
    · exact ih hrest id' hid'

theorem Linked.mono {frames frames' : List Frame} (hframes : frames <+: frames') {ids : List Nat}
    (h : Linked frames ids) : Linked frames' ids := by
  induction ids with
  | nil => trivial
  | cons id rest ih =>
    obtain ⟨⟨f, hf, hparent⟩, hrest⟩ := h
    obtain ⟨more, rfl⟩ := hframes
    refine ⟨⟨f, ?_, hparent⟩, ih hrest⟩
    rw [List.getElem?_append_left (List.getElem?_eq_some_iff.1 hf).1, hf]

/-- The regions of the list are those around its first one. -/
theorem chain_eq_of_linked {d : ScopeRecord} (hdescends : Scope.Descends d.scopes) {rest : List Nat} :
    ∀ {id : Nat}, Linked d.frames (id :: rest) → Scope.chain d.scopes id = id :: rest := by
  induction rest with
  | nil =>
    rintro id ⟨⟨f, hf, hparent⟩, -⟩
    rw [ScopeRecord.getElem?_frames] at hf
    obtain ⟨s, hs, rfl⟩ := Option.map_eq_some_iff.1 hf
    exact Scope.chain_of_root hs hparent
  | cons parent rest ih =>
    rintro id ⟨⟨f, hf, hparent⟩, hrest⟩
    rw [ScopeRecord.getElem?_frames] at hf
    obtain ⟨s, hs, rfl⟩ := Option.map_eq_some_iff.1 hf
    rw [Scope.chain_of_parent hdescends hs hparent, ih hrest]

private theorem frames_apply (b : ScopeBuilder) (s : Step) : b.record.frames <+: (b.apply s).record.frames := by
  cases s with
  | enter kind span => simp [apply]
  | endExport =>
    unfold apply
    dsimp only
    split
    · exact List.prefix_rfl
    · rw [ScopeRecord.frames_markExported]
  | leave | declare | refer | beginExport => simp [apply]

theorem frames_run (b : ScopeBuilder) (steps : List Step) : b.record.frames <+: (b.run steps).record.frames := by
  induction steps generalizing b with
  | nil => exact List.prefix_rfl
  | cons s steps ih => exact (b.frames_apply s).trans (ih _)

def IsLinked (b : ScopeBuilder) : Prop := Linked b.record.frames b.stack

theorem IsLinked.isOpen (h : b.IsLinked) (hne : b.stack ≠ []) : b.record.IsOpen b.stack :=
  ⟨hne, fun id hid => by simpa using h.lt_length id hid⟩

theorem IsLinked.apply (h : b.IsLinked) (s : Step) : (b.apply s).IsLinked := by
  have hmono : Linked (b.apply s).record.frames b.stack := h.mono (b.frames_apply s)
  cases s with
  | enter kind span =>
    -- the new region has the number of regions so far, and lies inside the one that was the innermost
    refine ⟨⟨⟨kind, b.stack.head?, span⟩, ?_, rfl⟩, hmono⟩
    simp [ScopeBuilder.apply, ← ScopeRecord.length_frames]
  | leave =>
    unfold IsLinked
    cases hstack : b.stack with
    | nil =>
      rw [ScopeBuilder.apply, hstack]
      trivial
    | cons id rest =>
      rw [hstack] at hmono
      rw [ScopeBuilder.apply, hstack]
      exact hmono.2
  | endExport =>
    have hstack : (b.apply .endExport).stack = b.stack := by
      unfold ScopeBuilder.apply
      dsimp only
      split <;> rfl
    unfold IsLinked
    rw [hstack]
    exact hmono
  | declare | refer | beginExport => exact hmono

theorem IsLinked.run (h : b.IsLinked) (steps : List Step) : (b.run steps).IsLinked := by
  induction steps generalizing b with
  | nil => exact h
  | cons s steps ih => exact ih (h.apply s)

/-! ### The regions on the stack -/

/-- The regions that are open after a step, where those around it are given, the innermost first. -/
def track (around : List Region) : Step → List Region
  | .enter kind span => ⟨kind, span⟩ :: around
  | .leave => around.tail
  | .declare _ _ _ | .refer _ _ | .beginExport | .endExport => around

def openAfter (around : List Region) (steps : List Step) : List Region := steps.foldl track around

/-- In all later frames, the regions with the numbers on the stack are those that are open. -/
private theorem region_apply (s : Step) {frames : List Frame} (hframes : (b.apply s).record.frames <+: frames)
    {around : List Region} (h : b.stack.map (fun id => frames[id]?.map Frame.region) = around.map some) :
    (b.apply s).stack.map (fun id => frames[id]?.map Frame.region) = (track around s).map some := by
  cases s with
  | enter kind span =>
    obtain ⟨more, rfl⟩ := hframes
    rw [track, List.map_cons, ← h]
    simp [apply, ← ScopeRecord.length_frames, Frame.region]
  | leave =>
    have htail := congrArg List.tail h
    rw [← List.map_tail, ← List.map_tail] at htail
    exact htail
  | endExport =>
    unfold apply
    dsimp only
    split <;> exact h
  | declare | refer | beginExport => exact h

theorem region_run {steps : List Step} {frames : List Frame} (hframes : (b.run steps).record.frames <+: frames)
    {around : List Region} (h : b.stack.map (fun id => frames[id]?.map Frame.region) = around.map some) :
    (b.run steps).stack.map (fun id => frames[id]?.map Frame.region) = (openAfter around steps).map some := by
  induction steps generalizing b around with
  | nil => exact h
  | cons s steps ih => exact ih hframes (region_apply s (((b.apply s).frames_run steps).trans hframes) h)

/-! ### What the steps keep -/

def StaysOpen (b : ScopeBuilder) (steps : List Step) : Prop := ∀ front, front <+: steps → (b.run front).stack ≠ []

theorem StaysOpen.of_suffix {steps : List Step} (hne : b.stack ≠ [])
    (h : ∀ front, front <+: steps → b.stack <:+ (b.run front).stack) : b.StaysOpen steps := by
  intro front hfront hnil
  have hsuffix := h front hfront
  rw [hnil, List.suffix_nil] at hsuffix
  exact hne hsuffix

theorem StaysOpen.append_left (h : b.StaysOpen (front ++ back)) : b.StaysOpen front := fun rest hrest =>
  h rest (hrest.trans (List.prefix_append front back))

theorem StaysOpen.tail {s : Step} {steps : List Step} (h : b.StaysOpen (s :: steps)) : (b.apply s).StaysOpen steps :=
  fun rest hrest => h (s :: rest) ((List.prefix_cons_inj s).2 hrest)

theorem StaysOpen.append_right (h : b.StaysOpen (front ++ back)) : (b.run front).StaysOpen back := by
  intro rest hrest
  rw [← run_append]
  exact h _ ((List.prefix_append_right_inj front).2 hrest)

end ScopeBuilder

namespace ScopeRecord

variable {I : ScopeRecord → Prop} {b : ScopeBuilder}

theorem Kept.apply (k : Kept (fun _ => True) I) (hopen : b.record.IsOpen b.stack) (h : I b.record) (s : Step) :
    I (b.apply s).record := by
  cases s with
  | enter kind span => exact k.openScope _ _ kind span hopen h
  | declare kind name site => exact k.declare _ _ kind name site hopen trivial h
  | refer name site => exact k.refer _ _ name site hopen trivial h
  | endExport =>
    unfold ScopeBuilder.apply
    dsimp only
    split
    · exact h
    · exact k.markExported _ _ _ h
  | leave | beginExport => exact h

/-- What the four changes keep is kept along the way, as long as a region is open. -/
theorem Kept.run (k : Kept (fun _ => True) I) {steps : List Step} (hlinked : b.IsLinked) (hopen : b.StaysOpen steps)
    (h : I b.record) : I (b.run steps).record := by
  induction steps generalizing b with
  | nil => exact h
  | cons s steps ih =>
    have hne : b.stack ≠ [] := hopen [] (List.nil_prefix)
    exact ih (hlinked.apply s) hopen.tail (k.apply (hlinked.isOpen hne) h s)

end ScopeRecord

end ScriptTidy
