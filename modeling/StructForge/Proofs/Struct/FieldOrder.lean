import StructForge.Proofs.Batch.Drafting
import StructForge.Proofs.Schema.Partition

/-! # What a struct's text depends on

The text of a struct is made from the names of its source type and from the retained fields,
category by category. Dropped fields have no part in it, and neither has the order in which fields
of different categories are declared. Every source type thus has the text of a sorted one, which
declares nothing else. -/

namespace StructForge.Schema

namespace Source

/-- The source type without its dropped fields, the others category by category. -/
def sorted (s : Source) : Source :=
  { s with fields := Category.all.flatMap fun c => s.share (some c) }

/-- Two source types have the same names, and in each category the same fields in the same order. -/
structure SameShares (s s' : Source) : Prop where
  name : s.name = s'.name
  module : s.module = s'.module
  qualname : s.qualname = s'.qualname
  share : ∀ c : Category, s.share (some c) = s'.share (some c)

section Sorted

variable {s s' : Source}

theorem classify_of_mem_share {c : Option Category} {f : Field} (h : f ∈ s.share c) :
    classify f.type = c := by
  simpa using (List.mem_filter.mp h).2

theorem filter_share (c : Category) (c' : Option Category) :
    (s.share (some c)).filter (fun f => classify f.type = c') =
      if c' = some c then s.share (some c) else [] := by
  split
  · rename_i h
    subst h
    exact List.filter_eq_self.mpr fun f hf => by simpa using classify_of_mem_share hf
  · rename_i h
    refine List.filter_eq_nil_iff.mpr fun f hf => ?_
    rw [classify_of_mem_share hf]
    simpa using Ne.symm h

theorem share_sorted (s : Source) (c : Category) : s.sorted.share (some c) = s.share (some c) := by
  change (Category.all.flatMap fun c => s.share (some c)).filter _ = _
  simp only [List.filter_flatMap, filter_share]
  cases c <;> simp [Category.all]

/-- Sorting keeps exactly what source types share. -/
theorem sorted_eq_sorted : s.sorted = s'.sorted ↔ s.SameShares s' := by
  constructor
  · intro h
    have hnames := h
    simp only [sorted, mk.injEq] at hnames
    refine ⟨hnames.1, hnames.2.1, hnames.2.2.1, fun c => ?_⟩
    rw [← share_sorted, h, share_sorted]
  · intro h
    simp only [sorted, h.share, mk.injEq, and_true]
    exact ⟨h.name, h.module, h.qualname⟩

theorem fields_extract_sorted (s : Source) : s.sorted.extract.fields = s.extract.fields := by
  have hbucket : s.sorted.extract.bucket = s.extract.bucket := by
    funext c
    rw [bucket_eq_map_share, share_sorted, bucket_eq_map_share]
  unfold FieldSet.fields
  rw [hbucket]

theorem SameShares.fields_extract (h : s.SameShares s') : s.extract.fields = s'.extract.fields := by
  rw [← fields_extract_sorted, sorted_eq_sorted.mpr h, fields_extract_sorted]

end Sorted

end Source

theorem Naming.target_sorted (n : Naming) (s : Source) : n.target s.sorted = n.target s := rfl

end StructForge.Schema

namespace StructForge.Struct

open Schema

/-- Why there is no answer to what the text of a struct is. -/
inductive TextFault where
  | naming (fault : NamingFault)
  | emission (fault : EmitFault)
  deriving Repr

/-- The text of the struct of a source type: the type is named, its fields are classified, and those
retained are written out by the named template. There is none without retained fields. -/
def structText (n : Naming) (templates : Templates) (template : String) (s : Source) :
    Except TextFault (Option String) := do
  let t ← (n.target s).mapError .naming
  (emit templates template t s.extract.fields).mapError .emission

section Text

variable {s s' : Source}

theorem structText_sorted (n : Naming) (templates : Templates) (template : String) (s : Source) :
    structText n templates template s.sorted = structText n templates template s := by
  unfold structText
  rw [n.target_sorted, s.fields_extract_sorted]

/-- Dropped fields and the order of fields of different categories change neither the names nor the
retained fields nor the text, nor the failure if there is one. -/
theorem structText_eq_of_sameShares (h : s.SameShares s') (n : Naming) (templates : Templates)
    (template : String) :
    n.target s = n.target s' ∧ (∀ c, s.extract.bucket c = s'.extract.bucket c) ∧
      s.extract.fields = s'.extract.fields ∧
      structText n templates template s = structText n templates template s' := by
  have hsorted : s.sorted = s'.sorted := Source.sorted_eq_sorted.mpr h
  refine ⟨?_, fun c => ?_, h.fields_extract, ?_⟩
  · rw [← n.target_sorted s, hsorted, n.target_sorted]
  · rw [bucket_eq_map_share, h.share, ← bucket_eq_map_share]
  · rw [← structText_sorted, hsorted, structText_sorted]

def muster : Source :=
  ⟨"Unit", "game.units", "Unit",
    [⟨"rank", .mk "Rank" "game.units" "Rank" .enum [] true⟩,
      ⟨"note", .mk "Note" "game.units" "Note" .other [] false⟩,
      ⟨"scores", .mk "list" "builtins" "list" .sequence
        [.mk "Rank" "game.rivals" "Rank" .enum [] false] false⟩,
      ⟨"hp", .mk "int" "builtins" "int" .primitive [] false⟩]⟩

/-- The unit with a list declared first and another field dropped. -/
def musterAgain : Source :=
  ⟨"Unit", "game.units", "Unit",
    [⟨"scores", .mk "list" "builtins" "list" .sequence
        [.mk "Rank" "game.rivals" "Rank" .enum [] false] false⟩,
      ⟨"rank", .mk "Rank" "game.units" "Rank" .enum [] true⟩,
      ⟨"hp", .mk "int" "builtins" "int" .primitive [] false⟩,
      ⟨"tags", .mk "list" "builtins" "list" .sequence [] false⟩]⟩

/-- Both orders give the same text, although the two enums of one name need an alias. -/
theorem structText_muster :
    muster.SameShares musterAgain ∧
    structText {} .standard standardTemplate muster =
      structText {} .standard standardTemplate musterAgain := by
  have h : muster.SameShares musterAgain := ⟨rfl, rfl, rfl, fun c => by cases c <;> rfl⟩
  exact ⟨h, (structText_eq_of_sameShares h {} .standard standardTemplate).2.2.2⟩

end Text

end StructForge.Struct

namespace StructForge.Batch

open Schema Struct

theorem draft_of_sameShares {s s' : Source} (h : s.SameShares s') (templates : Templates)
    (t : Target) :
    draft templates t s.extract = draft templates t s'.extract ∧
      loadsStandard templates t s.extract = loadsStandard templates t s'.extract := by
  unfold draft loadsStandard FieldSet.isEmpty
  rw [h.fields_extract]
  exact ⟨rfl, rfl⟩

end StructForge.Batch
