import StructForge.Live.Comparison
import StructForge.Proofs.Steps

/-! # Names that hints refer to

A text in a hint refers to the names and attributes that it is evaluated from and, if its value has
texts in it, to what these refer to. What a hint resolves to depends on these names and attributes
and on no others, and so a class is described alike when an attribute of a module changes to which
neither its hints nor those of its ancestors refer. -/

namespace StructForge.Live

/-- What a text may look up. -/
inductive Use where
  | name (name : String)
  | attribute (name : String)

def Hint.ownTexts : Hint → List String
  | .constant (.text text) => [text]
  | _ => []

mutual

def Hint.texts : Hint → List String
  | .forward text => [text]
  | .generic _ args => argumentTexts args
  | .capitalGeneric _ args => allTexts args
  | .union hs => allTexts hs
  | .alternatives hs => allTexts hs
  | .classVar h => h.texts
  | .final h => h.texts
  | .annotated h _ => h.texts
  | _ => []

def allTexts : List Hint → List String
  | [] => []
  | h :: hs => h.texts ++ allTexts hs

/-- The texts among and in the arguments of a built-in generic. -/
def argumentTexts : List Hint → List String
  | [] => []
  | h :: hs => h.ownTexts ++ h.texts ++ argumentTexts hs

end

inductive Refers (s : Scope) : String → Use → Prop
  | name {text name : String} (h : name ∈ s.registry.platform.evaluator.names text) :
      Refers s text (.name name)
  | attribute {text name : String} (h : name ∈ s.registry.platform.evaluator.attributes text) :
      Refers s text (.attribute name)
  | further {text next : String} {v : Value} {use : Use} (hvalue : s.evaluate text = .ok v)
      (hnext : next ∈ v.asHint.argument.texts) (h : Refers s next use) : Refers s text use

/-- A name of a module that a class refers to, in its own hints or in those of an ancestor: as a name
in the module, or as an attribute of something in any module. -/
def Registry.RefersFrom (r : Registry) (module : String) (c : ClassRef) (name : String) : Prop :=
  ∃ a ∈ r.order c, ∃ p ∈ r.ownHints a, ∃ text ∈ p.2.argument.texts,
    Refers (.ofClass r a) text (.attribute name) ∨
      (a.label.module = module ∧ Refers (.ofClass r a) text (.name name))

/-! ## Resolving by what is referred to -/

/-- Scopes in which whatever some texts refer to stands for the same values. -/
structure Scope.AgreeOn (s s' : Scope) (texts : List String) : Prop where
  platform : s'.registry.platform = s.registry.platform
  names : ∀ text ∈ texts, ∀ name, Refers s text (.name name) → s'.find? name = s.find? name
  attributes : ∀ text ∈ texts, ∀ name, Refers s text (.attribute name) →
    ∀ v, s'.registry.attribute? v name = s.registry.attribute? v name

section Agree

variable {s s' : Scope} {text next : String} {texts texts' : List String}

theorem Scope.AgreeOn.mono (h : s.AgreeOn s' texts) (hsubset : texts' ⊆ texts) :
    s.AgreeOn s' texts' where
  platform := h.platform
  names text htext := h.names text (hsubset htext)
  attributes text htext := h.attributes text (hsubset htext)

theorem Scope.AgreeOn.evaluate_eq (h : s.AgreeOn s' [text]) :
    s'.evaluate text = s.evaluate text := by
  unfold Scope.evaluate
  rw [h.platform]
  exact Evaluator.value_congr _ _ _ _
    ⟨fun name hname => h.names text (List.mem_singleton_self _) name (.name hname),
      fun name hname => h.attributes text (List.mem_singleton_self _) name (.attribute hname)⟩

theorem Scope.AgreeOn.further (h : s.AgreeOn s' [text]) {v : Value}
    (hvalue : s.evaluate text = .ok v) : s.AgreeOn s' v.asHint.argument.texts where
  platform := h.platform
  names _ hnext name hname :=
    h.names text (List.mem_singleton_self _) name (.further hvalue hnext hname)
  attributes _ hnext name hname :=
    h.attributes text (List.mem_singleton_self _) name (.further hvalue hnext hname)

section Look

variable {look look' : Bool → String → Except String Hint}

mutual

theorem resolveWith_congr (hint : Hint)
    (h : ∀ text ∈ hint.texts, ∀ whole, look' whole text = look whole text) :
    hint.resolveWith look' = hint.resolveWith look := by
  cases hint with
  | forward text => exact h text List.mem_cons_self false
  | generic o args => simp only [Hint.resolveWith, resolveArguments_congr args h]
  | capitalGeneric o args => simp only [Hint.resolveWith, resolveAll_congr args h]
  | union hs => simp only [Hint.resolveWith, resolveAll_congr hs h]
  | alternatives hs => simp only [Hint.resolveWith, resolveAll_congr hs h]
  | classVar hint => simp only [Hint.resolveWith, resolveWith_congr hint h]
  | final hint => simp only [Hint.resolveWith, resolveWith_congr hint h]
  | annotated hint notes =>
    have hinner := resolveWith_congr hint h
    cases hint with
    | forward text => simp only [Hint.resolveWith, h text List.mem_cons_self true]
    | _ => simp only [Hint.resolveWith] at hinner ⊢; try simp only [hinner]
  | _ => rfl

theorem resolveAll_congr (hints : List Hint)
    (h : ∀ text ∈ allTexts hints, ∀ whole, look' whole text = look whole text) :
    resolveAll look' hints = resolveAll look hints := by
  cases hints with
  | nil => rfl
  | cons hint hints =>
    have hfirst := resolveWith_congr hint fun text ht => h text (List.mem_append_left _ ht)
    have hrest := resolveAll_congr hints fun text ht => h text (List.mem_append_right _ ht)
    simp only [resolveAll, hfirst, hrest]

theorem resolveArguments_congr (hints : List Hint)
    (h : ∀ text ∈ argumentTexts hints, ∀ whole, look' whole text = look whole text) :
    resolveArguments look' hints = resolveArguments look hints := by
  cases hints with
  | nil => rfl
  | cons hint hints =>
    have hown : ∀ text ∈ hint.ownTexts, look' false text = look false text := fun text ht =>
      h text (List.mem_append_left _ (List.mem_append_left _ ht)) false
    have hfirst := resolveWith_congr hint fun text ht =>
      h text (List.mem_append_left _ (List.mem_append_right _ ht))
    have hrest := resolveArguments_congr hints fun text ht => h text (List.mem_append_right _ ht)
    unfold resolveArguments
    rw [hrest]
    split
    · rw [hown _ List.mem_cons_self]
    · rw [hfirst]

end

end Look

theorem texts_checkedHint {v : Value} {whole : Bool} {hint : Hint}
    (h : v.checkedHint whole = .ok hint) : hint.texts ⊆ v.asHint.argument.texts := by
  unfold Value.checkedHint at h
  split at h
  · cases h
  split at h
  · split at h
    · cases h
      exact List.nil_subset _
    · cases h
  · cases h
    exact List.Subset.refl _
  · cases hcheck : v.asHint.checkArgument with
    | error f =>
      rw [hcheck] at h
      cases h
    | ok k =>
      rw [hcheck] at h
      cases h
      rw [Hint.checkArgument_eq_ok hcheck]
      exact List.Subset.refl _

theorem follow_congr (fuel : Nat) (met : List String) (whole : Bool) (text : String)
    (h : s.AgreeOn s' [text]) : follow s' fuel met whole text = follow s fuel met whole text := by
  induction fuel generalizing met whole text with
  | zero => rfl
  | succ fuel ih =>
    unfold follow
    rw [h.evaluate_eq]
    split
    · rfl
    cases hvalue : s.evaluate text with
    | error reason => rfl
    | ok v =>
      have hnext : ∀ next ∈ v.asHint.argument.texts, ∀ met whole,
          follow s' fuel met whole next = follow s fuel met whole next := fun next hnext met whole =>
        ih met whole next ((h.further hvalue).mono (List.cons_subset.mpr ⟨hnext, List.nil_subset _⟩))
      rw [ok_bind, ok_bind]
      cases hhint : v.checkedHint whole with
      | error reason => rfl
      | ok hint =>
        have htexts := texts_checkedHint hhint
        rw [ok_bind, ok_bind]
        split
        · exact hnext _ List.mem_cons_self _ _
        · exact resolveWith_congr hint fun next ht whole => hnext next (htexts ht) _ whole

end Agree

/-! ## Registries that differ in a module -/

section Modules

variable {r r' : Registry} {ms : List ModuleInfo} {c : ClassRef} {module name : String}

mutual

theorem describe_withModules (h : Hint) : h.describe { r with modules := ms } = h.describe r := by
  unfold Hint.describe
  split <;> first | rfl | rw [describeAll_withModules]

theorem describeAll_withModules (hs : List Hint) :
    describeAll { r with modules := ms } hs = describeAll r hs := by
  cases hs with
  | nil => rfl
  | cons h hs =>
    unfold describeAll
    rw [describe_withModules h, describeAll_withModules hs]

end

mutual

theorem describeBy_withModules (k : Comparison) (h : Hint) :
    h.describeBy k { r with modules := ms } = h.describeBy k r := by
  unfold Hint.describeBy
  split
  case h_5 => unfold Comparison.describeLeaf; rw [describe_withModules]
  all_goals rw [describeAllBy_withModules]

theorem describeAllBy_withModules (k : Comparison) (hs : List Hint) :
    describeAllBy k { r with modules := ms } hs = describeAllBy k r hs := by
  cases hs with
  | nil => rfl
  | cons h hs =>
    unfold describeAllBy
    rw [describeBy_withModules k h, describeAllBy_withModules k hs]

end

theorem publicFieldsBy_withModules {k : Comparison} {hints : List (String × Hint)} :
    Registry.publicFieldsBy k { r with modules := ms } c hints = r.publicFieldsBy k c hints := by
  unfold Registry.publicFieldsBy
  simp only [describeBy_withModules]
  rfl

/-- Registries with the same modules up to one attribute of one of them. -/
structure Registry.AgreeOff (r r' : Registry) (module name : String) : Prop where
  rest : ∃ ms, r' = { r with modules := ms }
  modules : ∀ other, other ≠ module → r'.module? other = r.module? other
  values : ∀ other, other ≠ name →
    (r'.moduleAttributes module).lookup other = (r.moduleAttributes module).lookup other

namespace Registry.AgreeOff

variable (h : r.AgreeOff r' module name)
include h

theorem lookup_eq {owner other : String} (hother : owner = module → other ≠ name) :
    (r'.moduleAttributes owner).lookup other = (r.moduleAttributes owner).lookup other := by
  by_cases howner : owner = module
  · rw [howner]
    exact h.values other (hother howner)
  · unfold Registry.moduleAttributes
    rw [h.modules _ howner]

/-- A name stands for the same in a class unless it is the one that differs. -/
theorem find?_ofClass {other : String} (hother : c.label.module = module → other ≠ name) :
    (Scope.ofClass r' c).find? other = (Scope.ofClass r c).find? other := by
  have hlookup := h.lookup_eq hother
  obtain ⟨ms, rfl⟩ := h.rest
  simp only [Scope.find?, Scope.ofClass, List.findSome?_cons, hlookup]
  rfl

/-- An attribute stands for the same unless its name is the one that differs. -/
theorem attribute?_eq {other : String} (hother : other ≠ name) (v : Value) :
    r'.attribute? v other = r.attribute? v other := by
  have hlookup (owner : String) : (r'.moduleAttributes owner).lookup other =
      (r.moduleAttributes owner).lookup other := h.lookup_eq fun _ => hother
  obtain ⟨ms, rfl⟩ := h.rest
  unfold Registry.attribute?
  simp only [hlookup]
  rfl

/-- A class resolves alike in both registries if it does not refer to what differs. -/
theorem resolvedHints_eq (hfree : ¬r.RefersFrom module c name) :
    r'.resolvedHints c = r.resolvedHints c := by
  have hown : ∀ a ∈ r.order c, r'.resolvedOwn a = r.resolvedOwn a := by
    intro a ha
    have hlook : ∀ p ∈ r.ownHints a, ∀ text ∈ p.2.argument.texts, ∀ whole,
        (Scope.ofClass r' a).look whole text = (Scope.ofClass r a).look whole text := by
      intro p hp text htext whole
      have hagree : (Scope.ofClass r a).AgreeOn (.ofClass r' a) [text] := by
        refine ⟨?_, ?_, ?_⟩
        · obtain ⟨ms, rfl⟩ := h.rest
          rfl
        · intro text' htext' other hrefers
          rw [List.mem_singleton.mp htext'] at hrefers
          exact h.find?_ofClass fun hmodule hname =>
            hfree ⟨a, ha, p, hp, text, htext, .inr ⟨hmodule, hname ▸ hrefers⟩⟩
        · intro text' htext' other hrefers
          rw [List.mem_singleton.mp htext'] at hrefers
          exact h.attribute?_eq fun hname =>
            hfree ⟨a, ha, p, hp, text, htext, .inl (hname ▸ hrefers)⟩
      unfold Scope.look
      rw [hagree.platform]
      exact follow_congr _ _ _ _ hagree
    have hdeclared : ∀ p ∈ r.ownHints a,
        p.2.declared (.ofClass r' a) = p.2.declared (.ofClass r a) := by
      intro p hp
      unfold Hint.declared
      split
      · rename_i text heq
        rw [hlook p hp text (by rw [heq]; exact List.mem_cons_self)]
      · rw [resolveWith_congr _ (hlook p hp)]
    have hhints : r'.ownHints a = r.ownHints a := by
      obtain ⟨ms, rfl⟩ := h.rest
      rfl
    unfold Registry.resolvedOwn
    rw [hhints]
    refine mapM_congr ?_
    rintro ⟨_, hint⟩ hp
    simp only [hdeclared _ hp]
  have horder : r'.order c = r.order c := by
    obtain ⟨ms, rfl⟩ := h.rest
    rfl
  unfold Registry.resolvedHints
  rw [horder, mapM_congr fun a ha => hown a (List.mem_reverse.mp ha)]

/-- A class is described alike in both registries if it does not refer to what differs. -/
theorem describeBy_eq (k : Comparison) (hfree : ¬r.RefersFrom module c name) :
    r'.describeBy k c = r.describeBy k c := by
  unfold Registry.describeBy
  rw [h.resolvedHints_eq hfree]
  obtain ⟨ms, rfl⟩ := h.rest
  simp only [publicFieldsBy_withModules]

end Registry.AgreeOff

end Modules

end StructForge.Live
