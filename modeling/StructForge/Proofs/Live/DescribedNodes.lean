import StructForge.Live.Comparison
import StructForge.Proofs.Live.Description
import StructForge.Proofs.Steps

/-! # What the nodes of a description say

A description is a tree: a list or dictionary of either spelling has the descriptions of its
arguments below it, and nothing else has anything below it. The shape of a node tells which hint it
describes, as far as values of that hint can be copied: the vectors are those classes and no others,
the numbers are a few classes and whatever says that it equals one of them, and an enum is of whole
numbers only if a walk over it meets some members and all of them are. -/

namespace StructForge

namespace Schema.TypeRef

mutual

/-- A type, and all types among its arguments at any depth. -/
def nodes : TypeRef → List TypeRef
  | mk name module qualname shape args intValued =>
    mk name module qualname shape args intValued :: nodesAll args

def nodesAll : List TypeRef → List TypeRef
  | [] => []
  | t :: ts => t.nodes ++ nodesAll ts

end

end Schema.TypeRef

namespace Live

open Schema Number

variable {k : Comparison} {r : Registry} {h g : Hint} {c : ClassRef} {t : TypeRef}

namespace Hint

/-- The container that a hint is of, in either spelling, with arguments or without. -/
def container? : Hint → Option Origin
  | .cls (.builtin "list") => some .list
  | .cls (.builtin "dict") => some .dict
  | .capital o | .generic o _ | .capitalGeneric o _ => some o
  | _ => none

def typeArguments : Hint → List Hint
  | .generic _ args | .capitalGeneric _ args => args
  | _ => []

mutual

/-- A hint, and its type arguments at any depth as far as only lists and dictionaries are above
them. -/
def parts : Hint → List Hint
  | .generic .list args => .generic .list args :: partsAll args
  | .generic .dict args => .generic .dict args :: partsAll args
  | .capitalGeneric .list args => .capitalGeneric .list args :: partsAll args
  | .capitalGeneric .dict args => .capitalGeneric .dict args :: partsAll args
  | h => [h]

def partsAll : List Hint → List Hint
  | [] => []
  | h :: hs => h.parts ++ partsAll hs

end

end Hint

/-- The classes of numbers and truth values, built in and of fixed width. -/
def primitiveClasses : List ClassRef :=
  [.builtin "bool", .builtin "int", .builtin "float"] ++ Kind.all.map .number

/-- Where a number or truth value is found, and how it is called. -/
theorem label_of_mem_primitiveClasses (hc : c ∈ primitiveClasses) :
    c.label.qualname = c.label.name ∧
      (c.label.module = "builtins" ∧ c.label.name ∈ ["bool", "int", "float"] ∨
        c.label.module = "numpy" ∧ c.label.name ∈ ["bool", "int8", "int16", "int32", "int64",
          "uint8", "uint16", "uint32", "uint64", "float16", "float32", "float64"]) := by
  revert c
  decide

/-- What equals a class of numbers: such a class itself, or a class or another object of the program
that says so. -/
theorem isNumeric_iff : k.isNumeric h = .ok true ↔
    (∃ c ∈ primitiveClasses, h = .cls c) ∨
      (∃ index label, h = .cls (.defined index label none) ∧ k.ofClass index = .ok true) ∨
      ∃ o, h = .object o ∧ k.ofObject o = .ok true := by
  have hall (kind : Kind) : kind ∈ Kind.all := by cases kind <;> decide
  constructor
  · intro hnumeric
    unfold Comparison.isNumeric at hnumeric
    split at hnumeric
    · exact .inr (.inl ⟨_, _, rfl, hnumeric⟩)
    · exact .inl ⟨_, List.mem_append_right _ (List.mem_map_of_mem (hall _)), rfl⟩
    · rename_i name
      have hname := List.contains_iff_mem.mp (Except.ok.inj hnumeric)
      refine .inl ⟨.builtin name, List.mem_append_left _ ?_, rfl⟩
      simpa using hname
    · exact .inr (.inr ⟨_, rfl, hnumeric⟩)
    · cases hnumeric
  · rintro (⟨c, hc, rfl⟩ | ⟨index, label, rfl, hclass⟩ | ⟨o, rfl, hobject⟩)
    · rcases List.mem_append.mp hc with hc | hc
      · simp only [List.mem_cons, List.not_mem_nil, or_false] at hc
        rcases hc with rfl | rfl | rfl <;> rfl
      · obtain ⟨kind, -, rfl⟩ := List.mem_map.mp hc
        rfl
    · exact hclass
    · exact hobject

/-! ## The tests that decide a description -/

theorem describeAllBy_eq_mapM (k : Comparison) (r : Registry) (hs : List Hint) :
    describeAllBy k r hs = hs.mapM (·.describeBy k r) := by
  induction hs with
  | nil => rfl
  | cons h hs ih => rw [describeAllBy, ih, List.mapM_cons]

def DescribedEach (k : Comparison) (r : Registry) : List Hint → List TypeRef → Prop :=
  List.Forall₂ fun h t => h.describeBy k r = .ok t

theorem describeAllBy_eq_ok {hs : List Hint} {ts : List TypeRef} :
    describeAllBy k r hs = .ok ts ↔ DescribedEach k r hs ts := by
  rw [describeAllBy_eq_mapM, mapM_eq_ok]
  rfl

/-- A description, by the test that decides it. -/
inductive DescribedAs (k : Comparison) (r : Registry) : Hint → TypeRef → Prop
  | list {h : Hint} {ts : List TypeRef} (hcontainer : h.container? = some .list)
      (hargs : DescribedEach k r h.typeArguments ts) :
      DescribedAs k r h (.mk "list" "builtins" "list" .sequence ts false)
  | dict {h : Hint} {ts : List TypeRef} (hcontainer : h.container? = some .dict)
      (hargs : DescribedEach k r h.typeArguments ts) :
      DescribedAs k r h (.mk "dict" "builtins" "dict" .mapping ts false)
  | vector3 : DescribedAs k r (.cls .vector3) (describeAs .vector3 .vector3)
  | vector2 : DescribedAs k r (.cls .vector2) (describeAs .vector2 .vector2)
  | enum {c : ClassRef} {base : EnumBase} (hbase : c.enumBase? = some base) :
      DescribedAs k r (.cls c)
        (.mk c.label.name c.label.module c.label.qualname .enum [] (r.isIntValued c))
  | numeric {h : Hint} {l : Label} (hnumeric : k.isNumeric h = .ok true)
      (hlabel : k.labelOf h = .ok l) :
      DescribedAs k r h (.leaf l.name l.module l.qualname .primitive)
  | cls (c : ClassRef) : DescribedAs k r (.cls c) (describeAs c .other)
  | text (h : Hint) : DescribedAs k r h (describeText h)

theorem describedAs_describeClass (hnumeric : k.isNumeric (.cls c) = .ok false) :
    DescribedAs k r (.cls c) (r.describeClass c) := by
  by_cases h3 : c = .vector3
  · rw [h3]
    exact .vector3
  by_cases h2 : c = .vector2
  · rw [h2]
    exact .vector2
  have hprimitive : c ∉ primitiveClasses := by
    intro hc
    have htrue : k.isNumeric (.cls c) = .ok true := isNumeric_iff.mpr (.inl ⟨c, hc, rfl⟩)
    rw [hnumeric] at htrue
    cases htrue
  have hnumber : ¬∃ kind, c = .number kind := by
    rintro ⟨kind, rfl⟩
    cases hnumeric
  rw [describeClass_eq h3 h2 hnumber]
  split
  · rename_i hsome
    exact .enum (Option.eq_some_of_isSome hsome)
  · rw [if_neg fun hmem => hprimitive (List.mem_append_left _ (List.contains_iff_mem.mp hmem))]
    exact .cls c

theorem describedAs_of_describeBy (hdescribe : h.describeBy k r = .ok t) : DescribedAs k r h t := by
  unfold Hint.describeBy at hdescribe
  split at hdescribe
  case h_5 hlist hcapitalList hdict hcapitalDict =>
    obtain ⟨isNumeric, hnumeric, hdescribe⟩ := bind_eq_ok.mp hdescribe
    cases isNumeric with
    | true =>
      obtain ⟨l, hlabel, hdescribe⟩ := bind_eq_ok.mp hdescribe
      cases hdescribe
      exact .numeric hnumeric hlabel
    | false =>
      cases hdescribe
      unfold Hint.describe
      split
      · exact .list rfl .nil
      · exact .list rfl .nil
      · exact .dict rfl .nil
      · exact .dict rfl .nil
      · exact absurd rfl (hlist _)
      · exact absurd rfl (hcapitalList _)
      · exact absurd rfl (hdict _)
      · exact absurd rfl (hcapitalDict _)
      · exact describedAs_describeClass hnumeric
      · exact .text _
  all_goals
    obtain ⟨ts, hts, hdescribe⟩ := bind_eq_ok.mp hdescribe
    cases hdescribe
    first
      | exact .list rfl (describeAllBy_eq_ok.mp hts)
      | exact .dict rfl (describeAllBy_eq_ok.mp hts)

/-- A value that is a whole number: a number, or a member of an enum of whole numbers. Truth values
and numbers of fixed width are none. -/
def Value.IsWholeNumber (v : Value) : Prop :=
  (∃ i, v = .int i) ∨ ∃ cls base name value, v = .member cls base name value ∧ base.isInt = true

/-- An enum counts as one of whole numbers just if a walk over it meets some members and each of
them has a whole number. -/
theorem isIntValued_iff : r.isIntValued c = true ↔
    r.iterated c ≠ [] ∧ ∀ m ∈ r.iterated c, m.value.IsWholeNumber := by
  simp only [Registry.isIntValued, Bool.and_eq_true, Bool.not_eq_true', List.isEmpty_eq_false_iff,
    List.all_eq_true]
  refine and_congr_right fun _ => forall₂_congr fun m _ => ?_
  cases m.value <;> simp [Value.IsWholeNumber]

/-- The hints that a shape stands for. Whatever fits no other shape is described as `other`. -/
def Fits (k : Comparison) : Shape → Hint → Prop
  | .sequence, h => h.container? = some .list
  | .mapping, h => h.container? = some .dict
  | .vector2, h => h = .cls .vector2
  | .vector3, h => h = .cls .vector3
  | .primitive, h => k.isNumeric h = .ok true
  | .enum, h => ∃ c base, h = .cls c ∧ c.enumBase? = some base
  | .other, _ => True

theorem DescribedAs.fits (hview : DescribedAs k r h t) : Fits k t.shape h := by
  cases hview with
  | list hcontainer => exact hcontainer
  | dict hcontainer => exact hcontainer
  | vector3 => rfl
  | vector2 => rfl
  | enum hbase => exact ⟨_, _, rfl, hbase⟩
  | numeric hnumeric => exact hnumeric
  | cls => trivial
  | text => trivial

theorem describeBy_of_isNumeric (hnumeric : k.isNumeric h = .ok true) :
    h.describeBy k r = do
      let l ← k.labelOf h
      return .leaf l.name l.module l.qualname .primitive := by
  have hleaf : h.describeBy k r = k.describeLeaf r h := by
    unfold Hint.describeBy
    split
    case h_5 => rfl
    all_goals cases hnumeric
  rw [hleaf]
  unfold Comparison.describeLeaf
  rw [hnumeric]
  rfl

theorem shape_of_fits {shape : Shape} (hother : shape ≠ .other) (hfits : Fits k shape h)
    (hdescribe : h.describeBy k r = .ok t) : t.shape = shape := by
  cases shape with
  | sequence | mapping =>
    simp only [Fits] at hfits
    unfold Hint.container? at hfits
    split at hfits <;> cases hfits
    all_goals
      first
        | cases hdescribe; rfl
        | obtain ⟨ts, -, hdescribe⟩ := bind_eq_ok.mp hdescribe
          cases hdescribe
          rfl
  | vector2 | vector3 =>
    cases hfits
    cases hdescribe
    rfl
  | primitive =>
    rw [describeBy_of_isNumeric hfits] at hdescribe
    obtain ⟨l, -, hdescribe⟩ := bind_eq_ok.mp hdescribe
    cases hdescribe
    rfl
  | enum =>
    obtain ⟨c, base, rfl, hbase⟩ := hfits
    cases c with
    | enumBase =>
      cases hdescribe
      rfl
    | defined index label enum =>
      cases hbase
      cases hdescribe
      rfl
    | _ => cases hbase
  | other => exact absurd rfl hother

/-- The shape of a description tells exactly the hints that it stands for. -/
theorem shape_eq_iff {shape : Shape} (hother : shape ≠ .other)
    (hdescribe : h.describeBy k r = .ok t) : t.shape = shape ↔ Fits k shape h :=
  ⟨fun hshape => hshape ▸ (describedAs_of_describeBy hdescribe).fits,
    fun hfits => shape_of_fits hother hfits hdescribe⟩

/-- What a node of a description says of the hint that it describes. -/
structure Reflects (k : Comparison) (r : Registry) (h : Hint) (t : TypeRef) : Prop where
  sequence : t.shape = .sequence ↔ h.container? = some .list
  mapping : t.shape = .mapping ↔ h.container? = some .dict
  vector2 : t.shape = .vector2 ↔ h = .cls .vector2
  vector3 : t.shape = .vector3 ↔ h = .cls .vector3
  primitive : t.shape = .primitive ↔
    (∃ c ∈ primitiveClasses, h = .cls c) ∨
      (∃ index label, h = .cls (.defined index label none) ∧ k.ofClass index = .ok true) ∨
      ∃ o, h = .object o ∧ k.ofObject o = .ok true
  enum : t.shape = .enum ↔ ∃ c base, h = .cls c ∧ c.enumBase? = some base
  sequenceLabel : t.shape = .sequence →
    t.name = "list" ∧ t.module = "builtins" ∧ t.qualname = "list"
  mappingLabel : t.shape = .mapping →
    t.name = "dict" ∧ t.module = "builtins" ∧ t.qualname = "dict"
  valueLabel : t.isValueType = true → ∃ l, k.labelOf h = .ok l ∧
    t.name = l.name ∧ t.module = l.module ∧ t.qualname = l.qualname
  primitiveLabel : t.shape = .primitive → (∃ c ∈ primitiveClasses, h = .cls c) →
    t.qualname = t.name ∧
    (t.module = "builtins" ∧ t.name ∈ ["bool", "int", "float"] ∨
      t.module = "numpy" ∧ t.name ∈ ["bool", "int8", "int16", "int32", "int64",
        "uint8", "uint16", "uint32", "uint64", "float16", "float32", "float64"])
  arguments : t.shape = .sequence ∨ t.shape = .mapping → DescribedEach k r h.typeArguments t.args
  leaf : t.shape ≠ .sequence → t.shape ≠ .mapping → t.args = []
  intValued : t.intValued = true → t.shape = .enum ∧ ∃ c, h = .cls c ∧
    r.iterated c ≠ [] ∧ ∀ m ∈ r.iterated c, m.value.IsWholeNumber

/-- What a description says of a hint follows from the test that decides it, and from each shape
standing for its own hints alone. -/
theorem DescribedAs.reflects (hview : DescribedAs k r h t)
    (hshape : ∀ shape, shape ≠ .other → (t.shape = shape ↔ Fits k shape h)) :
    Reflects k r h t where
  sequence := hshape _ nofun
  mapping := hshape _ nofun
  vector2 := hshape _ nofun
  vector3 := hshape _ nofun
  primitive := (hshape .primitive nofun).trans isNumeric_iff
  enum := hshape _ nofun
  sequenceLabel hsequence := by
    cases hview with
    | list => exact ⟨rfl, rfl, rfl⟩
    | _ => cases hsequence
  mappingLabel hmapping := by
    cases hview with
    | dict => exact ⟨rfl, rfl, rfl⟩
    | _ => cases hmapping
  valueLabel hvalue := by
    cases hview with
    | vector3 | vector2 | enum => exact ⟨_, rfl, rfl, rfl, rfl⟩
    | numeric _ hlabel => exact ⟨_, hlabel, rfl, rfl, rfl⟩
    | _ => cases hvalue
  primitiveLabel hprimitive := by
    rintro ⟨c, hc, rfl⟩
    cases hview with
    | numeric hnumeric hlabel =>
      cases hlabel
      exact label_of_mem_primitiveClasses hc
    | _ => cases hprimitive
  arguments hcontainer := by
    cases hview with
    | list _ hargs => exact hargs
    | dict _ hargs => exact hargs
    | _ => rcases hcontainer with ⟨⟨⟩⟩ | ⟨⟨⟩⟩
  leaf hsequence hmapping := by
    cases hview <;> first | rfl | exact absurd rfl hsequence | exact absurd rfl hmapping
  intValued hint := by
    cases hview with
    | enum => exact ⟨rfl, _, rfl, isIntValued_iff.mp hint⟩
    | _ => cases hint

theorem reflects_of_describeBy (hdescribe : h.describeBy k r = .ok t) : Reflects k r h t :=
  (describedAs_of_describeBy hdescribe).reflects fun _ hother => shape_eq_iff hother hdescribe

/-! ## Nodes -/

section Nodes

theorem nodes_eq_cons (t : TypeRef) : t.nodes = t :: TypeRef.nodesAll t.args := by
  cases t
  rfl

theorem nodes_of_leaf (hdescribe : h.describeBy k r = .ok t) (htype : h.typeArguments = [] ∨
    h.container? ≠ some .list ∧ h.container? ≠ some .dict) : t.nodes = [t] := by
  have hreflects := reflects_of_describeBy hdescribe
  have hargs : t.args = [] := by
    by_cases hcontainer : t.shape = .sequence ∨ t.shape = .mapping
    · have heach := hreflects.arguments hcontainer
      rcases htype with htype | ⟨hlist, hdict⟩
      · rw [htype] at heach
        exact List.forall₂_nil_left_iff.mp heach
      · rcases hcontainer with hsequence | hmapping
        · exact absurd (hreflects.sequence.mp hsequence) hlist
        · exact absurd (hreflects.mapping.mp hmapping) hdict
    · rw [not_or] at hcontainer
      exact hreflects.leaf hcontainer.1 hcontainer.2
  rw [nodes_eq_cons, hargs]
  rfl

theorem exists_args_of_generic {o : Origin} {args : List Hint} (ho : o = .list ∨ o = .dict)
    (hh : h = .generic o args ∨ h = .capitalGeneric o args) (hdescribe : h.describeBy k r = .ok t) :
    DescribedEach k r args t.args := by
  rcases ho with rfl | rfl <;> rcases hh with rfl | rfl <;>
    exact (reflects_of_describeBy hdescribe).arguments
      (by
        obtain ⟨ts, -, hdescribe⟩ := bind_eq_ok.mp hdescribe
        cases hdescribe
        first | exact .inl rfl | exact .inr rfl)

mutual

theorem nodes_of_describeBy : ∀ (h : Hint) {t : TypeRef}, h.describeBy k r = .ok t →
    DescribedEach k r h.parts t.nodes
  | .generic .list args, t, hdescribe => by
    rw [nodes_eq_cons]
    exact .cons hdescribe (nodesAll_of_describedEach args
      (exists_args_of_generic (.inl rfl) (.inl rfl) hdescribe))
  | .generic .dict args, t, hdescribe => by
    rw [nodes_eq_cons]
    exact .cons hdescribe (nodesAll_of_describedEach args
      (exists_args_of_generic (.inr rfl) (.inl rfl) hdescribe))
  | .capitalGeneric .list args, t, hdescribe => by
    rw [nodes_eq_cons]
    exact .cons hdescribe (nodesAll_of_describedEach args
      (exists_args_of_generic (.inl rfl) (.inr rfl) hdescribe))
  | .capitalGeneric .dict args, t, hdescribe => by
    rw [nodes_eq_cons]
    exact .cons hdescribe (nodesAll_of_describedEach args
      (exists_args_of_generic (.inr rfl) (.inr rfl) hdescribe))
  | .generic .tuple _, t, hdescribe | .generic .set _, t, hdescribe
  | .generic .frozenset _, t, hdescribe | .capitalGeneric .tuple _, t, hdescribe
  | .capitalGeneric .set _, t, hdescribe | .capitalGeneric .frozenset _, t, hdescribe => by
    rw [nodes_of_leaf hdescribe (.inr (by simp [Hint.container?]))]
    exact .cons hdescribe .nil
  | .cls _, t, hdescribe | .capital _, t, hdescribe | .anyClassVar, t, hdescribe
  | .union _, t, hdescribe | .alternatives _, t, hdescribe | .classVar _, t, hdescribe
  | .final _, t, hdescribe | .initVar _, t, hdescribe | .annotated _ _, t, hdescribe
  | .literal _, t, hdescribe | .typeVar _, t, hdescribe | .forward _, t, hdescribe
  | .form _, t, hdescribe | .constant _, t, hdescribe | .object _, t, hdescribe => by
    rw [nodes_of_leaf hdescribe (.inl rfl)]
    exact .cons hdescribe .nil

theorem nodesAll_of_describedEach : ∀ (hs : List Hint) {ts : List TypeRef},
    DescribedEach k r hs ts → DescribedEach k r (Hint.partsAll hs) (TypeRef.nodesAll ts)
  | [], ts, heach => by
    rw [List.forall₂_nil_left_iff.mp heach]
    exact .nil
  | h :: hs, ts, heach => by
    obtain ⟨t, ts, hfirst, hrest, rfl⟩ := List.forall₂_cons_left_iff.mp heach
    exact List.rel_append (nodes_of_describeBy h hfirst) (nodesAll_of_describedEach hs hrest)

end

end Nodes

/-! ## Hints that cannot be described -/

section Refusals

/-- A hint that fails when it is compared, or equals a class of numbers and is found nowhere. -/
def Comparison.Refuses (k : Comparison) (h : Hint) : Prop :=
  (∃ f, k.isNumeric h = .error f) ∨
    (k.isNumeric h = .ok true ∧ ∃ f, k.labelOf h = .error f)

theorem exists_describeLeaf_iff :
    (∃ t, k.describeLeaf r h = .ok t) ↔ ¬k.Refuses h := by
  unfold Comparison.describeLeaf Comparison.Refuses
  cases k.isNumeric h with
  | error f => simp [bind, Except.bind]
  | ok isNumeric =>
    cases isNumeric with
    | false => simp [bind, Except.bind, pure, Except.pure]
    | true =>
      cases k.labelOf h with
      | error f => simp [bind, Except.bind]
      | ok l => simp [bind, Except.bind, pure, Except.pure]

theorem not_refuses_generic {o : Origin} {args : List Hint} :
    ¬k.Refuses (.generic o args) ∧ ¬k.Refuses (.capitalGeneric o args) := by
  simp [Comparison.Refuses, Comparison.isNumeric]

theorem exists_of_bind_pure {ε α β : Type} {x : Except ε α} {f : α → β} :
    (∃ b, (do return f (← x)) = Except.ok b) ↔ ∃ a, x = .ok a := by
  cases x <;> simp [bind, Except.bind, pure, Except.pure]

mutual

/-- A hint is described unless one of its parts refuses to be. -/
theorem exists_describeBy_iff : ∀ h : Hint,
    (∃ t, h.describeBy k r = .ok t) ↔ ∀ g ∈ h.parts, ¬k.Refuses g
  | .generic .list args | .generic .dict args => by
    rw [Hint.describeBy, exists_of_bind_pure, exists_describeAllBy_iff args]
    rw [Hint.parts, List.forall_mem_cons, and_iff_right not_refuses_generic.1]
  | .capitalGeneric .list args | .capitalGeneric .dict args => by
    rw [Hint.describeBy, exists_of_bind_pure, exists_describeAllBy_iff args]
    rw [Hint.parts, List.forall_mem_cons, and_iff_right not_refuses_generic.2]
  | .generic .tuple _ | .generic .set _ | .generic .frozenset _ | .capitalGeneric .tuple _
  | .capitalGeneric .set _ | .capitalGeneric .frozenset _ | .cls _ | .capital _ | .anyClassVar
  | .union _ | .alternatives _ | .classVar _ | .final _ | .initVar _ | .annotated _ _
  | .literal _ | .typeVar _ | .forward _ | .form _ | .constant _ | .object _ =>
    exists_describeLeaf_iff.trans (List.forall_mem_singleton (p := fun g => ¬k.Refuses g)).symm

theorem exists_describeAllBy_iff : ∀ hs : List Hint,
    (∃ ts, describeAllBy k r hs = .ok ts) ↔ ∀ g ∈ Hint.partsAll hs, ¬k.Refuses g
  | [] => by simp [describeAllBy, Hint.partsAll]
  | h :: hs => by
    rw [Hint.partsAll, List.forall_mem_append, ← exists_describeBy_iff h,
      ← exists_describeAllBy_iff hs]
    simp only [describeAllBy, bind_eq_ok, pure_eq_ok]
    constructor
    · rintro ⟨_, t, ht, ts, hts, -⟩
      exact ⟨⟨t, ht⟩, ts, hts⟩
    · rintro ⟨⟨t, ht⟩, ts, hts⟩
      exact ⟨_, t, ht, ts, hts, rfl⟩

end

end Refusals

/-! ## Retained fields -/

section Retained

end Retained

/-- A type of elements that equals a class of numbers, and has no name. -/
def elementType : ObjectRef := ⟨some 0, "numpy.dtypes.Int32DType", "dtype('int32')", "int32"⟩

def weighing : Comparison where
  ofClass index := .ok (index == 0)
  ofObject o := .ok (o.index == some 0)

end Live

end StructForge
