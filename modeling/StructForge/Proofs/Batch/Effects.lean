import StructForge.Proofs.Batch.Handling

/-! # What handling a candidate does to the tree

A candidate stores a file for a written outcome only, and makes directories on the way to the output
directory. Whatever else is in the tree stays there as it is. -/

namespace StructForge.Batch

open Files Schema Struct

def Outcome.IsWrittenAt (here place : Location) (x : Outcome) : Prop :=
  x.status = .written ∧ x.path?.map (·.locate here) = some place

instance (here place : Location) (x : Outcome) : Decidable (x.IsWrittenAt here place) :=
  inferInstanceAs (Decidable (_ ∧ _))

section Step

variable {c : Config} {o : Options} {templates : Templates} {ready ready' : Bool} {s : Source}
  {tree tree' : Tree} {sink sink' : Sink} {outcome : Outcome}

theorem Prepared.keeps {start : Tree} (h : Prepared ready sink start tree) : start.Keeps tree := by
  cases h with
  | known => exact .refl _
  | made _ hmade =>
    have hkeeps := Action.makeDirectories_keeps sink.outputDir start
    rw [hmade] at hkeeps
    exact hkeeps

/-- Handling a candidate stores the text of a written outcome where its path leads, and otherwise
keeps the tree. -/
theorem Handled.effect (h : Handled c o templates ready s tree sink ready' outcome tree' sink') :
    tree.Keeps tree' ∨
    ∃ t path text place, outcome = .written s.name t s.extract.dropped path text ∧
      path.holdsNull = false ∧ place = path.locate tree.here ∧
      tree'.reach path = .ok (.taken place (.file text.toUTF8)) ∧
      tree.Stores tree' place text.toUTF8 := by
  cases h with
  | unnamed => exact .inl (.refl _)
  | unrendered => exact .inl (.refl _)
  | skipped => exact .inl (.refl _)
  | previewed => exact .inl (.refl _)
  | noDirectory _ _ _ _ hmade =>
    have hkeeps := Action.makeDirectories_keeps sink.outputDir tree
    rw [hmade] at hkeeps
    exact .inl hkeeps
  | refused _ _ _ hprep => exact .inl hprep.keeps
  | unwritten _ _ _ hprep => exact .inl hprep.keeps
  | @written t text middle _ _ _ _ hprep _ hwrite =>
    obtain ⟨hnull, place, hwritable, rfl⟩ := Action.writeText_run_ok.mp hwrite
    obtain ⟨hne, hdir⟩ := hwritable.find?_ne
    have hstores : middle.Stores (middle.put place (.file text.toUTF8)) place text.toUTF8 :=
      Tree.stores_put hne hdir
    have hplace := hwritable.eq_locate
    rw [hprep.keeps.here] at hplace
    exact .inr ⟨t, _, text, place, rfl, hnull, hplace,
      hwritable.reach_of_extends hstores.extends hstores.self, hprep.keeps.stores hstores⟩

theorem Handled.extends (h : Handled c o templates ready s tree sink ready' outcome tree' sink') :
    tree.Extends tree' := by
  rcases h.effect with hkeeps | ⟨t, path, text, place, -, -, -, -, hstores⟩
  · exact hkeeps.extends
  · exact hstores.extends

theorem Handled.outputDir (h : Handled c o templates ready s tree sink ready' outcome tree' sink') :
    sink'.outputDir = sink.outputDir := by
  cases h <;> rfl

theorem Prepared.changes {start : Tree} {written : Location → Prop}
    (h : Prepared ready sink start tree) :
    start.Changes tree written (sink.outputDir.LeadsThrough start.here) := by
  cases h with
  | known => exact .refl _ _ _
  | made _ hmade =>
    have hchanges := Action.makeDirectories_isMaking sink.outputDir start
    rw [hmade] at hchanges
    exact hchanges.mono (fun _ => False.elim) fun _ h => h

/-- Handling a candidate writes a file only for a written outcome, and makes directories on the way
to the output directory. -/
theorem Handled.changes (h : Handled c o templates ready s tree sink ready' outcome tree' sink') :
    tree.Changes tree' (outcome.IsWrittenAt tree.here ·)
      (sink.outputDir.LeadsThrough tree.here) := by
  cases h with
  | unnamed => exact .refl _ _ _
  | unrendered => exact .refl _ _ _
  | skipped => exact .refl _ _ _
  | previewed => exact .refl _ _ _
  | noDirectory _ _ _ _ hmade =>
    have hchanges := Action.makeDirectories_isMaking sink.outputDir tree
    rw [hmade] at hchanges
    exact hchanges.mono (fun _ => False.elim) fun _ h => h
  | refused _ _ _ hprep => exact hprep.changes
  | unwritten _ _ _ hprep => exact hprep.changes
  | written _ _ _ hprep _ hwrite =>
    obtain ⟨-, place, hplace, rfl⟩ := Action.writeText_run_ok.mp hwrite
    obtain ⟨hne, hdir⟩ := hplace.find?_ne
    have hhere := hprep.keeps.here
    refine hprep.changes.trans (Tree.changes_put_file hne hdir ?_)
    rw [hplace.eq_locate, hhere]
    exact ⟨rfl, rfl⟩

theorem Handled.tree_eq (h : Handled c o templates ready s tree sink ready' outcome tree' sink')
    (htext : outcome.text? = none) : tree' = tree := by
  cases h with
  | unnamed => rfl
  | unrendered => rfl
  | skipped => rfl
  | previewed => rfl
  | noDirectory => cases htext
  | refused => cases htext
  | unwritten => cases htext
  | written => cases htext

end Step

section Run

variable {c : Config} {o : Options} {ready : Bool} {candidates : List Source} {tree tree' : Tree}
  {sink sink' : Sink} {outcomes : List Outcome}

theorem HandledAll.extends
    (h : HandledAll c o ready candidates tree sink outcomes tree' sink') : tree.Extends tree' := by
  induction h with
  | nil => exact (Tree.Keeps.refl _).extends
  | cons head _ ih => exact head.extends.trans ih

end Run

end StructForge.Batch
