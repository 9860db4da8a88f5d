import StructForge.Proofs.Discovery.FirstMeeting
import StructForge.Proofs.Live.NameUse

/-! # What a search collects

A search collects the marked classes of each lead in the state of the program that the leads before
it left. A lead that leads to classes that were met before, and leaves that state as it is, adds
nothing; and neither does another name that a module has for a class. -/

namespace StructForge.Discovery

open Live

/-- The marked classes that a lead leads to: those of a module once it is loaded, or of what an entry
stands for once that is loaded. -/
inductive Lead.Finds (load : Loader) (r : Registry) : Lead → List ClassRef → Registry → Prop
  | module {name : String} {s : Registry} (h : load name r = .ok s) :
      Lead.Finds load r (.module name) (markedClasses s name) s
  | entry {e : Entry} {loaded : Loaded} {cs : List ClassRef} {s : Registry}
      (h : e.load r = .ok (loaded, s)) (hclasses : loaded.classes? s = some cs) :
      Lead.Finds load r (.entry e) cs s

/-- The classes that leads lead to one after the other, and what is defined in the end. -/
inductive Collects (load : Loader) : Registry → List Lead → List ClassRef → Registry → Prop
  | nil {r : Registry} : Collects load r [] [] r
  | cons {r s last : Registry} {lead : Lead} {leads : List Lead} {cs ds : List ClassRef}
      (hlead : lead.Finds load r cs s) (h : Collects load s leads ds last) :
      Collects load r (lead :: leads) (cs ++ ds) last

section Collection

variable {load : Loader} {r s last last' : Registry} {lead : Lead} {leads before after : List Lead}
  {cs cs' ds again : List ClassRef}

theorem classes_eq_ok : lead.classes load r = .ok (cs, s) ↔ lead.Finds load r cs s := by
  constructor
  · intro h
    cases lead with
    | module name =>
      obtain ⟨s, hload, ⟨⟩⟩ := bind_eq_ok.mp h
      exact .module hload
    | entry e =>
      have h : e.classes r = .ok (cs, s) := h
      unfold Entry.classes at h
      split at h
      · cases h
      split at h
      · cases h
        exact .entry ‹_› ‹_›
      · cases h
  · intro h
    cases h with
    | module hload => exact bind_eq_ok.mpr ⟨s, hload, rfl⟩
    | entry hload hclasses =>
      change Entry.classes r _ = _
      unfold Entry.classes
      simp only [hload, hclasses]

/-- Collecting ends well exactly when everything can be loaded. -/
theorem collect_eq_ok : collect load r leads = .ok (cs, last) ↔ Collects load r leads cs last := by
  induction leads generalizing r cs with
  | nil =>
    constructor
    · rintro ⟨⟩
      exact .nil
    · rintro ⟨⟩
      rfl
  | cons lead leads ih =>
    unfold collect
    rw [bind_eq_ok]
    constructor
    · rintro ⟨⟨ds, s⟩, hlead, h⟩
      obtain ⟨⟨es, s'⟩, hleads, ⟨⟩⟩ := bind_eq_ok.mp h
      exact .cons (classes_eq_ok.mp hlead) (ih.mp hleads)
    · rintro (_ | ⟨hlead, hleads⟩)
      refine ⟨_, classes_eq_ok.mpr hlead, ?_⟩
      simp only [ih.mpr hleads, ok_bind]
      rfl

theorem Collects.unique (h : Collects load r leads cs last) (h' : Collects load r leads cs' last') :
    cs' = cs ∧ last' = last := by
  have heq := (collect_eq_ok.mpr h').symm.trans (collect_eq_ok.mpr h)
  exact Prod.mk.inj (Except.ok.inj heq)

theorem Collects.append (h : Collects load r before cs s) (hafter : Collects load s after ds last) :
    Collects load r (before ++ after) (cs ++ ds) last := by
  induction h with
  | nil => exact hafter
  | cons hlead _ ih =>
    rw [List.append_assoc]
    exact .cons hlead (ih hafter)

theorem exists_of_collects_append (h : Collects load r (before ++ after) cs last) :
    ∃ ds es s, Collects load r before ds s ∧ Collects load s after es last ∧ cs = ds ++ es := by
  induction before generalizing r cs with
  | nil => exact ⟨[], cs, r, .nil, h, rfl⟩
  | cons lead before ih =>
    obtain _ | @⟨_, _, _, _, _, ds, _, hlead, h⟩ := h
    obtain ⟨ds', es, s, hbefore, hafter, rfl⟩ := ih h
    exact ⟨ds ++ ds', es, s, .cons hlead hbefore, hafter, (List.append_assoc ..).symm⟩

/-- A lead to classes that were met before adds nothing if following it changes nothing. -/
theorem Collects.insert (h : Collects load r (before ++ after) cs last)
    (hbefore : Collects load r before ds s) (hlead : lead.Finds load s again s)
    (hmet : again.map classKey ⊆ ds.map classKey) :
    ∃ cs', Collects load r (before ++ lead :: after) cs' last ∧ MetAlike cs cs' := by
  obtain ⟨ds', es, s', hbefore', hafter, rfl⟩ := exists_of_collects_append h
  obtain ⟨rfl, rfl⟩ := hbefore.unique hbefore'
  exact ⟨_, hbefore.append (.cons hlead hafter), .insert hmet⟩

theorem Collects.of_modules {names : List String} (hidle : ∀ name r s, load name r = .ok s → s = r)
    (h : Collects load r (names.map .module) cs s) :
    s = r ∧ cs = names.flatMap (markedClasses r) ∧ ∀ name ∈ names, load name r = .ok r := by
  induction names generalizing cs with
  | nil =>
    cases h
    exact ⟨rfl, rfl, nofun⟩
  | cons name names ih =>
    obtain _ | ⟨⟨hload⟩, h⟩ := h
    cases hidle _ _ _ hload
    obtain ⟨hsame, rfl, hnames⟩ := ih h
    exact ⟨hsame, rfl, List.forall_mem_cons.mpr ⟨hload, hnames⟩⟩

end Collection

/-! ## Another name for a class -/

/-- The second registry has one more attribute of a module, which is another name for a class. In
the class's own module it stands after the class. -/
structure HasAlias (r r' : Registry) (module name : String) (c : ClassRef) : Prop where
  rest : ∃ ms, r' = { r with modules := ms } ∧ ms.map (·.name) = r.modules.map (·.name)
  others : ∀ other, other ≠ module → r'.module? other = r.module? other
  attributes : ∃ before after, r.module? module = some ⟨module, before ++ after⟩ ∧
    r'.module? module = some ⟨module, before ++ (name, .hint (.cls c)) :: after⟩ ∧
    name ∉ (before ++ after).map (·.1) ∧
    (c.label.module = module → .hint (.cls c) ∈ before.map (·.2))

section Alias

variable {r r' : Registry} {module name : String} {c : ClassRef}

namespace HasAlias

variable (h : HasAlias r r' module name c)
include h

theorem agreeOff : r.AgreeOff r' module name := by
  obtain ⟨ms, hms, -⟩ := h.rest
  refine ⟨⟨ms, hms⟩, h.others, fun other hother => ?_⟩
  obtain ⟨before, after, hbefore, hafter, -⟩ := h.attributes
  unfold Registry.moduleAttributes
  rw [hbefore, hafter]
  simp only [Option.elim_some, List.lookup_append, List.lookup_cons, beq_false_of_ne hother]

theorem isMarked_eq : isMarked r' = isMarked r := by
  obtain ⟨ms, rfl, -⟩ := h.rest
  rfl

theorem markedIn?_eq : markedIn? r' = markedIn? r := by
  unfold markedIn?
  rw [h.isMarked_eq]

theorem isSome_module? (other : String) : (r'.module? other).isSome = (r.module? other).isSome := by
  by_cases hother : other = module
  · obtain ⟨before, after, hbefore, hafter, -⟩ := h.attributes
    rw [hother, hbefore, hafter]
    rfl
  · rw [h.others other hother]

theorem known_eq (other : String) : known r' other = known r other := by
  obtain ⟨ms, hms, hnames⟩ := h.rest
  have hinside (p : String → Bool) : (r'.modules.any fun m => p m.name) =
      r.modules.any fun m => p m.name := by
    have hany := congrArg (List.any · p) hnames
    simpa only [List.any_map, Function.comp_def, hms] using hany
  unfold known
  simp only [h.isSome_module?, hinside fun m => (other ++ ".").toList.isPrefixOf m.toList]

theorem enter_eq (before parts : List String) : enter r' before parts = enter r before parts := by
  induction parts generalizing before with
  | nil => rfl
  | cons part parts ih =>
    unfold enter
    simp only [h.known_eq, ih]

theorem findModule_eq (other : String) : findModule r' other = findModule r other := by
  unfold findModule
  simp only [h.isSome_module?, h.enter_eq]

/-- A module has the same classes in the same order, with a class again after its first meeting. -/
theorem metAlike (other : String) : MetAlike (markedClasses r other) (markedClasses r' other) := by
  by_cases hother : other = module
  · obtain ⟨before, after, hbefore, hafter, -, hclass⟩ := h.attributes
    unfold markedClasses
    simp only [hother, hbefore, hafter, h.markedIn?_eq, List.filterMap_append,
      List.filterMap_cons]
    cases hmarked : markedIn? r module (.hint (.cls c)) with
    | none => exact .refl _
    | some d =>
      refine .insert_mem ?_
      have hown : c = d ∧ c.label.module = module := by
        simp [markedIn?] at hmarked
        exact ⟨hmarked.2, hmarked.1.2⟩
      obtain ⟨p, hp, hpc⟩ := List.mem_map.mp (hclass hown.2)
      refine List.mem_filterMap.mpr ⟨p, hp, ?_⟩
      simp only [hpc, hmarked]
  · unfold markedClasses
    rw [h.others other hother]
    cases r.module? other with
    | none => exact .refl _
    | some m =>
      simp only [h.markedIn?_eq]
      exact .refl _

end HasAlias

def AreAlike (module name : String) (c : ClassRef) (r r' : Registry) : Prop :=
  r' = r ∨ HasAlias r r' module name c

/-- Programs that go through alike registries when they load the same. -/
structure AddsAlias (p p' : Program) (module name : String) (c : ClassRef) : Prop where
  comparison : p'.comparison = p.comparison
  registry : AreAlike module name c p.registry p'.registry
  load : ∀ other r r' s, AreAlike module name c r r' → p.load other r = .ok s →
    ∃ s', p'.load other r' = .ok s' ∧ AreAlike module name c s s'
  entries : List.Forall₂ (fun e e' => ∀ r r' loaded s, AreAlike module name c r r' →
    e.load r = .ok (loaded, s) →
      ∃ s', e'.load r' = .ok (loaded, s') ∧ AreAlike module name c s s') p.entries p'.entries

def LeadsAlike (load load' : Loader) (module name : String) (c : ClassRef) (x x' : Lead) : Prop :=
  ∀ r r' cs s, AreAlike module name c r r' → x.Finds load r cs s →
    ∃ cs' s', x'.Finds load' r' cs' s' ∧ MetAlike cs cs' ∧ AreAlike module name c s s'

theorem AreAlike.markedClasses (h : AreAlike module name c r r') (other : String) :
    MetAlike (markedClasses r other) (markedClasses r' other) := by
  rcases h with rfl | h
  · exact .refl _
  · exact h.metAlike other

theorem AreAlike.classes? (h : AreAlike module name c r r') {loaded : Loaded} {cs : List ClassRef}
    (hcs : loaded.classes? r = some cs) : ∃ cs', loaded.classes? r' = some cs' ∧ MetAlike cs cs' := by
  have hmarked : isMarked r' = isMarked r := by
    rcases h with rfl | h
    · rfl
    · exact h.isMarked_eq
  unfold Loaded.classes? at hcs ⊢
  rw [hmarked]
  split at hcs
  · cases hcs
    exact ⟨_, rfl, h.markedClasses _⟩
  · exact ⟨cs, hcs, .refl _⟩
  · cases hcs

theorem Collects.alike {load load' : Loader} {leads leads' : List Lead} {cs : List ClassRef}
    {last : Registry} (h : Collects load r leads cs last)
    (hleads : List.Forall₂ (LeadsAlike load load' module name c) leads leads')
    (halike : AreAlike module name c r r') :
    ∃ cs' last', Collects load' r' leads' cs' last' ∧ MetAlike cs cs' ∧
      AreAlike module name c last last' := by
  induction h generalizing r' leads' with
  | nil =>
    cases hleads
    exact ⟨[], r', .nil, .refl _, halike⟩
  | cons hlead _ ih =>
    obtain _ | ⟨hfirst, hrest⟩ := hleads
    obtain ⟨cs', s', hlead', hmet, halike⟩ := hfirst _ _ _ _ halike hlead
    obtain ⟨ds', last', hrest', hmet', halike⟩ := ih hrest halike
    exact ⟨cs' ++ ds', last', .cons hlead' hrest', hmet.append hmet', halike⟩

theorem AddsAlias.leads {p p' : Program} (h : AddsAlias p p' module name c) (modules : List String)
    (included : Bool) : List.Forall₂ (LeadsAlike p.load p'.load module name c)
      (p.leads modules included) (p'.leads modules included) := by
  have hmodules : List.Forall₂ (LeadsAlike p.load p'.load module name c)
      (modules.map .module) (modules.map .module) := by
    rw [List.forall₂_map_left_iff, List.forall₂_map_right_iff, List.forall₂_same]
    rintro other - r r' cs s halike ⟨hload⟩
    obtain ⟨s', hload', halike⟩ := h.load _ _ _ _ halike hload
    exact ⟨_, s', .module hload', halike.markedClasses other, halike⟩
  refine List.rel_append hmodules ?_
  split
  · rw [List.forall₂_map_left_iff, List.forall₂_map_right_iff]
    refine h.entries.imp fun e e' he r r' cs s halike hfinds => ?_
    obtain _ | ⟨hload, hclasses⟩ := hfinds
    obtain ⟨s', hload', halike⟩ := he _ _ _ _ halike hload
    obtain ⟨cs', hclasses', hmet⟩ := halike.classes? hclasses
    exact ⟨cs', s', .entry hload' hclasses', hmet, halike⟩
  · exact .nil

theorem loadPresent_alike {other : String} {s : Registry} (halike : AreAlike module name c r r')
    (hload : loadPresent other r = .ok s) :
    ∃ s', loadPresent other r' = .ok s' ∧ AreAlike module name c s s' := by
  obtain ⟨_, hfind, ⟨⟩⟩ := bind_eq_ok.mp hload
  have hfind' : findModule r' other = .ok () := by
    rcases halike with rfl | h
    · exact hfind
    · rw [h.findModule_eq, hfind]
  exact ⟨r', bind_eq_ok.mpr ⟨(), hfind', rfl⟩, halike⟩

end Alias

end StructForge.Discovery
