import StructForge.Proofs.Live.Assignment

/-! # Chains of classes

A program defines classes one after the other, and in between it does other things to its classes
and modules. In a chain each class has the one before it as its only base, and either all of them or
none are made dataclasses. Whatever else the program does, each class of a chain keeps its hints,
the order of its ancestors, and the names that it collected. -/

namespace StructForge.Live

variable {r r' : Registry} {c base : ClassRef} {isDataclass : Bool}

section Order

theorem mergeOrders_single {order : List ClassRef} (hnodup : order.Nodup) {fuel : Nat}
    (hfuel : order.length ≤ fuel) (empties : List (List ClassRef))
    (hempties : ∀ o ∈ empties, o = []) :
    mergeOrders fuel (order :: empties) = some order := by
  have hfilter : empties.filter (!·.isEmpty) = [] := by
    rw [List.filter_eq_nil_iff]
    intro o ho
    rw [hempties o ho]
    exact Bool.false_ne_true
  induction order generalizing fuel empties with
  | nil =>
    cases fuel with
    | zero =>
      rw [mergeOrders, if_pos]
      simpa using hempties
    | succ fuel => rw [mergeOrders, List.filter_cons_of_neg (by simp), hfilter]; rfl
  | cons c rest ih =>
    obtain ⟨fuel, rfl⟩ : ∃ n, fuel = n + 1 := ⟨fuel - 1, by simp at hfuel; omega⟩
    rw [List.nodup_cons] at hnodup
    have hrest := ih hnodup.2 (Nat.le_of_succ_le_succ hfuel) [] nofun rfl
    rw [mergeOrders, List.filter_cons_of_pos (by simp), hfilter]
    simp [hnodup.1, hrest]

theorem mergeOrders_base {rest : List ClassRef} (hnodup : (base :: rest).Nodup) {fuel : Nat}
    (hfuel : rest.length < fuel) :
    mergeOrders fuel [base :: rest, [base]] = some (base :: rest) := by
  obtain ⟨fuel, rfl⟩ : ∃ n, fuel = n + 1 := ⟨fuel - 1, by omega⟩
  rw [List.nodup_cons] at hnodup
  have hrest := mergeOrders_single hnodup.2 (Nat.le_of_lt_succ hfuel) [[]] (by simp)
  rw [mergeOrders]
  simp [hnodup.1, hrest]

theorem orderOf_base {rest : List ClassRef} (horder : r.order base = base :: rest)
    (hnodup : (base :: rest).Nodup) : r.orderOf c [base] = .ok (c :: base :: rest) := by
  unfold Registry.orderOf
  simp only [List.isEmpty_cons, Bool.false_eq_true, if_false, List.map_cons, List.map_nil, horder]
  rw [List.singleton_append, mergeOrders_base hnodup (by simp; omega)]

end Order

section Program

def Registry.extend (r : Registry) (info : ClassInfo) : Registry :=
  { r with classes := r.classes ++ [info] }

def Registry.next (r : Registry) (label : Label) : ClassRef := .defined r.classes.length label none

theorem define_base {label : Label} {hints : List (String × Hint)} {rest : List ClassRef}
    (horder : r.order base = base :: rest) (hnodup : (base :: rest).Nodup)
    (hvector : ∀ a ∈ base :: rest, a ≠ .vector2 ∧ a ≠ .vector3) :
    r.define label [base] (.record isDataclass hints) = .ok (r.next label, r.extend
      { label
        order := r.next label :: base :: rest
        body := .record isDataclass hints
        collected :=
          if isDataclass then some (r.collect label.module (base :: rest) hints) else none
        attributes := [] }) := by
  have hfree (v : ClassRef) (hne : r.next label ≠ v) (hv : ∀ a ∈ base :: rest, a ≠ v) :
      (r.next label :: base :: rest).contains v = false := by
    rw [← Bool.not_eq_true, List.contains_iff_mem, List.mem_cons, not_or]
    exact ⟨hne.symm, fun h => hv _ h rfl⟩
  have h2 := hfree .vector2 nofun fun a ha => (hvector a ha).1
  have h3 := hfree .vector3 nofun fun a ha => (hvector a ha).2
  unfold Registry.define
  simp only [orderOf_base horder hnodup]
  cases isDataclass with
  | false => rfl
  | true =>
    simp only [Registry.next] at h2 h3
    rw [ok_bind, h2, h3]
    rfl

theorem define_ok {label : Label} {bases : List ClassRef} {body : ClassBody}
    (h : r.define label bases body = .ok (c, r')) : ∃ info, r' = r.extend info := by
  obtain ⟨order, -, h⟩ := bind_eq_ok.mp h
  rcases body with ⟨_ | _, hints⟩ | ⟨base, members⟩
  · cases h
    exact ⟨_, rfl⟩
  · dsimp only at h
    split at h
    · cases h
    · cases h
      exact ⟨_, rfl⟩
  · cases h
    exact ⟨_, rfl⟩

/-- One thing that a program does to its classes and modules. -/
inductive Registry.Step (r : Registry) : Registry → Prop
  | define {label : Label} {bases : List ClassRef} {body : ClassBody} {c : ClassRef}
      {r' : Registry} (h : r.define label bases body = .ok (c, r')) : Step r r'
  | addModule (name : String) : Step r (r.addModule name)
  | setModuleAttribute (module name : String) (v : Value) :
      Step r (r.setModuleAttribute module name v)
  | store (module : String) (names : List String) (v : Value) : Step r (r.store module names v)
  | mark (c : ClassRef) (v : Value) : Step r (r.mark c v)

theorem info?_extend {info new : ClassInfo} (hinfo : r.info? c = some info) :
    (r.extend new).info? c = some info := by
  cases c with
  | defined index label enum =>
    exact (List.getElem?_append_left (List.getElem?_eq_some_iff.mp hinfo).1).trans hinfo
  | _ => cases hinfo

theorem info?_next {label : Label} {new : ClassInfo} :
    (r.extend new).info? (r.next label) = some new := by
  simp [Registry.info?, Registry.next, Registry.extend]

theorem ne_next {label : Label} {info : ClassInfo} (hinfo : r.info? c = some info) :
    c ≠ r.next label := by
  rintro rfl
  simp [Registry.info?, Registry.next] at hinfo

theorem info?_setClassAttribute {info : ClassInfo} {index : Nat} {name : String} {v : Value}
    (hinfo : r.info? c = some info) :
    ∃ attributes, (r.setClassAttribute index name v).info? c = some { info with attributes } := by
  cases c with
  | defined i label enum =>
    have hget : r.classes[i]? = some info := hinfo
    simp only [Registry.info?, Registry.setClassAttribute, List.getElem?_modify, hget]
    by_cases hi : index = i
    · exact ⟨assign name v info.attributes, by simp [hi]⟩
    · exact ⟨info.attributes, by simp [hi]⟩
  | _ => cases hinfo

theorem Registry.Step.info? (hstep : r.Step r') {info : ClassInfo} (hinfo : r.info? c = some info) :
    ∃ attributes, r'.info? c = some { info with attributes } := by
  have hsame {s : Registry} (hclasses : s.classes = r.classes) :
      ∃ attributes, s.info? c = some { info with attributes } := by
    refine ⟨info.attributes, ?_⟩
    rw [← hinfo]
    cases c <;> simp [Registry.info?, hclasses]
  cases hstep with
  | define h =>
    obtain ⟨new, rfl⟩ := define_ok h
    exact ⟨info.attributes, info?_extend hinfo⟩
  | addModule name =>
    refine hsame ?_
    unfold Registry.addModule
    split <;> rfl
  | setModuleAttribute => exact hsame rfl
  | store module names v =>
    unfold Registry.store
    split
    · exact hsame rfl
    · exact hsame rfl
    · split
      · exact info?_setClassAttribute hinfo
      · exact hsame rfl
  | mark => exact hsame rfl

end Program

section Chain

/-- A class of a chain: its hints, and the sorts that hints had in its module when it was defined. -/
structure Layer where
  owner : ClassRef
  hints : List (String × Hint)
  sort : Hint → FieldSort

/-- The names that a class declares, with their sorts in a dataclass. -/
def Layer.sorts (l : Layer) : List (String × FieldSort) :=
  l.hints.map fun p => (p.1, l.sort p.2)

/-- Whether a class is one of the language, built in or a base of enums: these declare no hints. -/
def ClassRef.isNative : ClassRef → Bool
  | .builtin _ | .enumBase _ => true
  | _ => false

variable {library : List ClassRef} {layers ancestors : List Layer} {l : Layer}

/-- What a registry has recorded of the classes of a chain, above the given library classes. -/
structure IsRecorded (isDataclass : Bool) (r : Registry) (library : List ClassRef)
    (layers : List Layer) : Prop where
  native : ∀ a ∈ library, a.isNative = true
  nodup : (layers.map (·.owner) ++ library).Nodup
  defined : ∀ l ∈ layers, ∃ index label, l.owner = .defined index label none
  info : ∀ l ancestors, l :: ancestors <:+ layers → ∃ info, r.info? l.owner = some info ∧
    info.order = (l :: ancestors).map (·.owner) ++ library ∧
    info.body = .record isDataclass l.hints ∧
    info.collected =
      if isDataclass then some (assignAll ((l :: ancestors).reverse.flatMap Layer.sorts)) else none

/-- The ancestors of a class of the language are classes of the language. -/
theorem order_native (r : Registry) (hnative : c.isNative = true) :
    ∃ rest, r.order c = c :: rest ∧ (c :: rest).Nodup ∧ ∀ a ∈ c :: rest, a.isNative = true := by
  unfold Registry.order
  split
  case h_1 => cases hnative
  case h_9 hobject _ _ _ _ _ _ =>
    refine ⟨_, rfl, ?_, List.forall_mem_cons.mpr ⟨hnative, by decide⟩⟩
    simpa [objectClass] using hobject
  all_goals exact ⟨_, rfl, by decide, by decide⟩

theorem ownCollected?_native (r : Registry) (hnative : c.isNative = true) :
    r.ownCollected? c = none := by
  cases c <;> first | rfl | cases hnative

theorem collected?_native (r : Registry) (hnative : c.isNative = true) :
    r.collected? c = none := by
  obtain ⟨rest, horder, -, hrest⟩ := order_native r hnative
  unfold Registry.collected?
  rw [horder, List.findSome?_eq_none_iff]
  exact fun a ha => ownCollected?_native r (hrest a ha)

namespace IsRecorded

variable (h : IsRecorded isDataclass r library (l :: ancestors))
include h

theorem tail : IsRecorded isDataclass r library ancestors where
  native := h.native
  nodup := (List.nodup_cons.mp h.nodup).2
  defined k hk := h.defined k (List.mem_cons_of_mem _ hk)
  info k ks hks := h.info k ks (hks.trans (List.suffix_cons ..))

theorem order_owner : r.order l.owner = (l :: ancestors).map (·.owner) ++ library := by
  obtain ⟨index, label, howner⟩ := h.defined l List.mem_cons_self
  obtain ⟨info, hinfo, horder, -⟩ := h.info l ancestors List.suffix_rfl
  unfold Registry.order
  split <;> simp_all

theorem ownCollected?_owner : r.ownCollected? l.owner =
    if isDataclass then some (assignAll ((l :: ancestors).reverse.flatMap Layer.sorts))
    else none := by
  obtain ⟨index, label, howner⟩ := h.defined l List.mem_cons_self
  obtain ⟨info, hinfo, -, -, hcollected⟩ := h.info l ancestors List.suffix_rfl
  unfold Registry.ownCollected?
  split <;> simp_all

end IsRecorded

theorem IsRecorded.collected?_owner (h : IsRecorded true r library (l :: ancestors)) :
    r.collected? l.owner = some (assignAll ((l :: ancestors).reverse.flatMap Layer.sorts)) := by
  unfold Registry.collected?
  rw [h.order_owner, List.map_cons, List.cons_append, List.findSome?_cons, h.ownCollected?_owner]
  rfl

theorem IsRecorded.assignAll_collected (h : IsRecorded true r library layers) :
    assignAll ((layers.map (·.owner)).reverse.flatMap fun a => (r.collected? a).getD []) =
      assignAll (layers.reverse.flatMap Layer.sorts) := by
  induction layers with
  | nil => rfl
  | cons l ancestors ih =>
    rw [List.map_cons, List.reverse_cons, List.flatMap_append, List.flatMap_singleton,
      assignAll_append, ih h.tail, h.collected?_owner, Option.getD_some, List.reverse_cons,
      List.flatMap_append, List.flatMap_singleton, assignAll_append]
    -- What the ancestors collected is met once more as the front of what the class collected.
    exact assignOnto_assignOnto (nodup_assignAll _) _

theorem IsRecorded.collect (h : IsRecorded true r library layers) (module : String)
    (hints : List (String × Hint)) :
    r.collect module (layers.map (·.owner) ++ library) hints =
      assignAll (layers.reverse.flatMap Layer.sorts ++
        hints.map fun p => (p.1, r.sortIn module p.2)) := by
  have hlibrary : library.reverse.flatMap (fun a => (r.collected? a).getD []) = [] := by
    rw [List.flatMap_eq_nil_iff]
    intro a ha
    rw [collected?_native r (h.native a (List.mem_reverse.mp ha))]
    rfl
  unfold Registry.collect
  rw [List.reverse_append, List.flatMap_append, hlibrary, List.nil_append, assignAll_append,
    h.assignAll_collected, ← assignAll_append]

theorem IsRecorded.define (h : IsRecorded isDataclass r library layers)
    (horder : r.order base = layers.map (·.owner) ++ library)
    (hhead : (layers.map (·.owner) ++ library).head? = some base) (label : Label)
    (hints : List (String × Hint)) :
    ∃ r', r.define label [base] (.record isDataclass hints) = .ok (r.next label, r') ∧
      IsRecorded isDataclass r' library
        (⟨r.next label, hints, r.sortIn label.module⟩ :: layers) := by
  obtain ⟨rest, hrest⟩ := List.head?_eq_some_iff.mp hhead
  have hkept : ∀ a ∈ layers.map (·.owner) ++ library, a ≠ .vector2 ∧ a ≠ .vector3 ∧
      a ≠ r.next label := by
    intro a ha
    rcases List.mem_append.mp ha with ha | ha
    · obtain ⟨l, hl, rfl⟩ := List.mem_map.mp ha
      obtain ⟨index, label', howner⟩ := h.defined l hl
      obtain ⟨before, after, rfl⟩ := List.append_of_mem hl
      obtain ⟨info, hinfo, -⟩ := h.info l after (List.suffix_append ..)
      exact ⟨by simp [howner], by simp [howner], ne_next hinfo⟩
    · have hnative := h.native a ha
      refine ⟨?_, ?_, ?_⟩ <;> rintro rfl <;> cases hnative
  refine ⟨_, define_base (horder.trans hrest) (hrest ▸ h.nodup)
    (fun a ha => ⟨(hkept a (hrest ▸ ha)).1, (hkept a (hrest ▸ ha)).2.1⟩), ?_⟩
  rw [← hrest]
  exact {
    native := h.native
    nodup := List.nodup_cons.mpr ⟨fun ha => (hkept _ ha).2.2 rfl, h.nodup⟩
    defined := List.forall_mem_cons.mpr ⟨⟨_, _, rfl⟩, h.defined⟩
    info := by
      intro l ancestors hsuffix
      rcases List.suffix_cons_iff.mp hsuffix with heq | hsuffix
      · obtain ⟨rfl, rfl⟩ := List.cons.inj heq
        refine ⟨_, info?_next, rfl, rfl, ?_⟩
        cases isDataclass with
        | false => rfl
        | true =>
          rw [List.reverse_cons, List.flatMap_append, List.flatMap_singleton]
          exact congrArg some (h.collect label.module hints)
      · obtain ⟨info, hinfo, hrecorded⟩ := h.info l ancestors hsuffix
        exact ⟨info, info?_extend hinfo, hrecorded⟩ }

theorem IsRecorded.step (h : IsRecorded isDataclass r library layers) (hstep : r.Step r') :
    IsRecorded isDataclass r' library layers where
  native := h.native
  nodup := h.nodup
  defined := h.defined
  info l ancestors hsuffix := by
    obtain ⟨info, hinfo, hrecorded⟩ := h.info l ancestors hsuffix
    obtain ⟨attributes, hinfo⟩ := hstep.info? hinfo
    exact ⟨_, hinfo, hrecorded⟩

theorem IsRecorded.nil (isDataclass : Bool) {rest : List ClassRef} (hnative : c.isNative = true)
    (horder : r.order c = c :: rest) : IsRecorded isDataclass r (c :: rest) [] := by
  obtain ⟨rest', horder', hnodup, hrest⟩ := order_native r hnative
  obtain ⟨-, rfl⟩ := List.cons.inj (horder.symm.trans horder')
  exact ⟨hrest, hnodup, nofun, fun l ancestors h => by simp at h⟩

end Chain

end StructForge.Live
