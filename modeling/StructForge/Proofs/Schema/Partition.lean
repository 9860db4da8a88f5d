import Mathlib.Data.List.Nodup
import StructForge.Proofs.Schema.Extraction
import StructForge.Proofs.Steps

/-! # Extraction as a partition

Extraction splits the declared fields into six lists, one for each category and one for the dropped
rest. Each list keeps the declaration order. The rules of the table exclude one another, so their
order does not matter, and a field can always be recorded in the list that its rule chooses. -/

namespace StructForge.Schema

/-! ## Rules exclude one another -/

def Shape.category? : Shape → Option Category
  | .sequence => some .sequence
  | .mapping => some .mapping
  | .vector3 => some .vector3
  | .vector2 => some .vector2
  | .primitive | .enum => some .scalar
  | .other => none

section Rules

variable {r : TypeRef} {rule rule' : Rule} {table : List Rule}

theorem category?_of_accepts (hrule : rule ∈ rules) (haccepts : rule.accepts r = true) :
    r.shape.category? = some rule.category := by
  simp only [rules, List.mem_cons, List.not_mem_nil, or_false] at hrule
  rcases hrule with rfl | rfl | rfl | rfl | rfl
  · have hshape : r.shape = .sequence := eq_of_beq (Bool.and_eq_true_iff.mp haccepts).1
    rw [hshape, Shape.category?]
  · have hshape : r.shape = .mapping := eq_of_beq (Bool.and_eq_true_iff.mp haccepts).1
    rw [hshape, Shape.category?]
  · rw [eq_of_beq haccepts, Shape.category?]
  · rw [eq_of_beq haccepts, Shape.category?]
  · rcases Bool.or_eq_true_iff.mp haccepts with hshape | hshape <;>
      rw [eq_of_beq hshape, Shape.category?]

theorem nodup_map_category : (rules.map (·.category)).Nodup := by decide

theorem rules_eq_of_accepts (hrule : rule ∈ rules) (hrule' : rule' ∈ rules)
    (haccepts : rule.accepts r = true) (haccepts' : rule'.accepts r = true) : rule = rule' := by
  apply List.inj_on_of_nodup_map nodup_map_category hrule hrule'
  have h := category?_of_accepts hrule haccepts
  rw [category?_of_accepts hrule' haccepts'] at h
  exact (Option.some.inj h).symm

theorem length_filter_accepts_le (r : TypeRef) : (rules.filter (·.accepts r)).length ≤ 1 := by
  have hnodup : (rules.filter (·.accepts r)).Nodup :=
    (nodup_map_category.of_map _).filter _
  have hmem : ∀ rule ∈ rules.filter (·.accepts r), rule ∈ rules ∧ rule.accepts r = true :=
    fun _ h => List.mem_filter.mp h
  rcases hmatches : rules.filter (·.accepts r) with _ | ⟨first, _ | ⟨second, rest⟩⟩
  · rw [hmatches]
    exact Nat.zero_le 1
  · rw [hmatches]
    exact Nat.le_refl 1
  · rw [hmatches] at hnodup hmem
    obtain ⟨hfirst, haccepts⟩ := hmem first List.mem_cons_self
    obtain ⟨hsecond, haccepts'⟩ := hmem second (List.mem_cons_of_mem _ List.mem_cons_self)
    have hne := (List.nodup_cons.mp hnodup).1
    rw [rules_eq_of_accepts hfirst hsecond haccepts haccepts'] at hne
    exact absurd List.mem_cons_self hne

theorem classifyBy_of_perm (htable : table.Perm rules) (r : TypeRef) :
    classifyBy table r = classify r := by
  unfold classify classifyBy
  congr 1
  cases hfind : table.find? (·.accepts r) with
  | none =>
    rw [List.find?_eq_none] at hfind
    symm
    rw [List.find?_eq_none]
    exact fun rule hrule => hfind rule (htable.mem_iff.mpr hrule)
  | some rule =>
    have hrule : rule ∈ rules := htable.mem_iff.mp (List.mem_of_find?_eq_some hfind)
    have haccepts : rule.accepts r = true :=
      List.find?_some (p := fun rule : Rule => rule.accepts r) hfind
    cases hfind' : rules.find? (·.accepts r) with
    | none => exact absurd haccepts (List.find?_eq_none.mp hfind' rule hrule)
    | some rule' =>
      have haccepts' : rule'.accepts r = true :=
        List.find?_some (p := fun rule : Rule => rule.accepts r) hfind'
      rw [rules_eq_of_accepts hrule (List.mem_of_find?_eq_some hfind') haccepts haccepts']

theorem checkArity_of_classify {c : Category} (h : classify r = some c) :
    checkArity c r.args = .ok () := by
  obtain ⟨rule, hrule, rfl, haccepts⟩ := exists_rule_of_classify h
  simp only [rules, List.mem_cons, List.not_mem_nil, or_false] at hrule
  rcases hrule with rfl | rfl | rfl | rfl | rfl
  · rcases hargs : r.args with _ | ⟨element, _ | ⟨second, rest⟩⟩
    case cons.nil => rfl
    all_goals simp [TypeRef.isSequence, hargs] at haccepts
  · rcases hargs : r.args with _ | ⟨key, _ | ⟨value, _ | ⟨third, rest⟩⟩⟩
    case cons.cons.nil => rfl
    all_goals simp [TypeRef.isMapping, hargs] at haccepts
  · rfl
  · rfl
  · rfl

end Rules

/-! ## Extraction field by field -/

def Field.drop (f : Field) : Dropped := ⟨f.name, f.type.display, (dropReason f.type).text⟩

namespace FieldSet

def empty (s : Source) : FieldSet :=
  { source := s, sequences := [], mappings := [], vector3s := [], vector2s := [], scalars := [],
    dropped := [] }

/-- Adds a field at the end of the list of its category. -/
def push (set : FieldSet) (d : Descriptor) : FieldSet :=
  match d.category with
  | .sequence => { set with sequences := set.sequences ++ [d] }
  | .mapping => { set with mappings := set.mappings ++ [d] }
  | .vector3 => { set with vector3s := set.vector3s ++ [d] }
  | .vector2 => { set with vector2s := set.vector2s ++ [d] }
  | .scalar => { set with scalars := set.scalars ++ [d] }

/-- Takes in one more declared field by a table of rules. Its element types cannot be recorded when
its type lacks the arguments of its category. -/
def take (table : List Rule) (set : FieldSet) (f : Field) : Except ArityFault FieldSet :=
  match classifyBy table f.type with
  | none => .ok { set with dropped := set.dropped ++ [f.drop] }
  | some c => do
    checkArity c f.type.args
    return set.push (f.describe c)

def extend (set : FieldSet) (fields : List Field) : FieldSet :=
  { set with
    sequences := set.sequences ++ fields.filterMap (Field.inCategory? .sequence)
    mappings := set.mappings ++ fields.filterMap (Field.inCategory? .mapping)
    vector3s := set.vector3s ++ fields.filterMap (Field.inCategory? .vector3)
    vector2s := set.vector2s ++ fields.filterMap (Field.inCategory? .vector2)
    scalars := set.scalars ++ fields.filterMap (Field.inCategory? .scalar)
    dropped := set.dropped ++ fields.filterMap Field.dropped? }

theorem extend_cons (set : FieldSet) (f : Field) (rest : List Field) :
    set.extend (f :: rest) = (set.extend [f]).extend rest := by
  have hsplit : f :: rest = [f] ++ rest := rfl
  simp only [extend, hsplit, List.filterMap_append, List.append_assoc]

theorem take_eq (set : FieldSet) (f : Field) : set.take rules f = .ok (set.extend [f]) := by
  unfold take
  change (match classify f.type with | none => _ | some c => _) = _
  cases hclassify : classify f.type with
  | none => simp [extend, Field.inCategory?, Field.dropped?, Field.drop, hclassify]
  | some c =>
    simp only [checkArity_of_classify hclassify]
    cases c <;> simp [extend, push, Field.describe, Field.inCategory?, Field.dropped?, hclassify]

theorem foldlM_take (fields : List Field) (set : FieldSet) :
    fields.foldlM (take rules) set = .ok (set.extend fields) := by
  induction fields generalizing set with
  | nil =>
    have hnil : set.extend [] = set := by simp [extend]
    rw [hnil]
    rfl
  | cons f rest ih =>
    rw [List.foldlM_cons, take_eq]
    exact (ih _).trans (congrArg Except.ok (extend_cons set f rest).symm)

end FieldSet

/-- Extraction in one pass over the declared fields, by a table of rules. -/
def Source.collect (table : List Rule) (s : Source) : Except ArityFault FieldSet :=
  s.fields.foldlM (FieldSet.take table) (.empty s)

/-- Extraction in one pass ends well, whatever the order of the rules. -/
theorem collect_of_perm {table : List Rule} (htable : table.Perm rules) (s : Source) :
    s.collect table = .ok s.extract := by
  have htake : FieldSet.take table = FieldSet.take rules := by
    funext set f
    unfold FieldSet.take
    rw [classifyBy_of_perm htable]
    rfl
  unfold Source.collect
  rw [htake, FieldSet.foldlM_take]
  rfl

/-! ## Six lists -/

def Descriptor.field (d : Descriptor) : Field := ⟨d.name, d.type⟩

/-- The declared fields of one category, or those without a category, in declaration order. -/
def Source.share (s : Source) (c : Option Category) : List Field :=
  s.fields.filter fun f => classify f.type = c

section Shares

variable (s : Source)

theorem bucket_eq_map_share (c : Category) :
    s.extract.bucket c = (s.share (some c)).map (·.describe c) := by
  rw [bucket_extract, Source.share, ← List.filterMap_eq_filter, List.map_filterMap]
  congr 1
  funext f
  unfold Field.inCategory?
  by_cases hclassify : classify f.type = some c <;> simp [Option.guard, hclassify]

theorem dropped_eq_map_share : s.extract.dropped = (s.share none).map Field.drop := by
  change s.fields.filterMap Field.dropped? = _
  rw [Source.share, ← List.filterMap_eq_filter, List.map_filterMap]
  congr 1
  funext f
  unfold Field.dropped?
  cases hclassify : classify f.type <;> simp [Option.guard, hclassify, Field.drop]

theorem map_field_bucket (c : Category) :
    (s.extract.bucket c).map (·.field) = s.share (some c) := by
  rw [bucket_eq_map_share, List.map_map]
  exact List.map_id' _

theorem category_of_mem_bucket {c : Category} {d : Descriptor} (h : d ∈ s.extract.bucket c) :
    d.category = c := by
  rw [bucket_eq_map_share] at h
  obtain ⟨f, -, rfl⟩ := List.mem_map.mp h
  rfl

theorem fields_eq_append (set : FieldSet) :
    set.fields =
      set.sequences ++ set.mappings ++ set.vector3s ++ set.vector2s ++ set.scalars := by
  simp [FieldSet.fields, Category.all, FieldSet.bucket]

open Classical in
theorem count_share (c : Option Category) (f : Field) :
    (s.share c).count f = if classify f.type = c then s.fields.count f else 0 :=
  count_filter_key (fun f : Field => classify f.type) c s.fields f

/-- The lists hold together what is declared. -/
theorem perm_shares : (s.extract.fields.map (·.field) ++ s.share none).Perm s.fields := by
  classical
  have hfields : s.extract.fields.map (·.field) =
      Category.all.flatMap fun c => s.share (some c) := by
    simp only [FieldSet.fields, List.map_flatMap, map_field_bucket]
  rw [List.perm_iff_count, hfields]
  intro f
  simp only [Category.all, List.flatMap_cons, List.flatMap_nil, List.count_append,
    List.count_nil, count_share]
  cases classify f.type with
  | none => simp
  | some c => cases c <;> simp

/-- Extraction is a partition that keeps the declaration order. It has a list for each category and
one for the dropped rest; it always ends well; and no two rules accept one type, so that the order
of the rules does not matter. -/
theorem extract_partitions :
    (∀ c, (s.extract.bucket c).map (·.field) = s.share (some c) ∧
      ∀ d ∈ s.extract.bucket c, d.category = c) ∧
    s.extract.dropped = (s.share none).map Field.drop ∧
    (∀ f ∈ s.fields, ∃! c, f ∈ s.share c) ∧
    (s.extract.fields.map (·.field) ++ s.share none).Perm s.fields ∧
    s.extract.fields = s.extract.sequences ++ s.extract.mappings ++ s.extract.vector3s ++
      s.extract.vector2s ++ s.extract.scalars ∧
    (s.extract.isEmpty = true ↔ s.share none = s.fields) ∧
    (∀ r : TypeRef, (rules.filter (·.accepts r)).length ≤ 1) ∧
    ∀ table : List Rule, table.Perm rules →
      (∀ r, classifyBy table r = classify r) ∧ s.collect table = .ok s.extract := by
  have hempty : s.extract.isEmpty = true ↔ s.share none = s.fields := by
    unfold FieldSet.isEmpty Source.share
    rw [List.isEmpty_iff, extract_fields_eq_nil, List.filter_eq_self]
    simp
  have hone : ∀ f ∈ s.fields, ∃! c, f ∈ s.share c := by
    intro f hf
    refine ⟨classify f.type, by simp [Source.share, hf], fun c hc => ?_⟩
    have hclassify : classify f.type = c := by simpa using (List.mem_filter.mp hc).2
    exact hclassify.symm
  exact ⟨fun c => ⟨map_field_bucket s c, fun _ => category_of_mem_bucket s⟩,
    dropped_eq_map_share s, hone, perm_shares s, fields_eq_append _, hempty,
    length_filter_accepts_le, fun _ htable => ⟨classifyBy_of_perm htable, collect_of_perm htable s⟩⟩

end Shares

end StructForge.Schema
