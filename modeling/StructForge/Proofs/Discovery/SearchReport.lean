import StructForge.Project
import StructForge.Proofs.Discovery.Collection
import StructForge.Proofs.Live.DescribedNodes

/-! # Reports of searches

A search reports every marked class once, where it is first met: with a description or with a
failure. What only leads to classes that were met before changes nothing, and neither does another
name for a class, unless a hint refers to that name. -/

namespace StructForge.Discovery

open Live Schema

/-- A report on classes: each of them is described or fails, both in the order of the classes. -/
inductive Reports (k : Comparison) (r : Registry) :
    List ClassRef → List Source → List Failure → Prop
  | nil : Reports k r [] [] []
  | described {c : ClassRef} {s : Source} {cs : List ClassRef} {ss : List Source}
      {fs : List Failure} (hc : r.describeBy k c = .ok s) (h : Reports k r cs ss fs) :
      Reports k r (c :: cs) (s :: ss) fs
  | failed {c : ClassRef} {f : Registry.DescribeFault} {cs : List ClassRef} {ss : List Source}
      {fs : List Failure} (hc : r.describeBy k c = .error f) (hkind : f.fault.kind = .badType)
      (h : Reports k r cs ss fs) : Reports k r (c :: cs) ss (⟨c.label, f.message⟩ :: fs)

def Escapes (k : Comparison) (r : Registry) (c : ClassRef) : Prop :=
  ∃ f, r.describeBy k c = .error f ∧ f.fault.kind ≠ .badType

def sourceKey (s : Source) : String × String := (s.module, s.qualname)

def failureKey (f : Failure) : String × String := (f.label.module, f.label.qualname)

section Reports

variable {k k' : Comparison} {r r' : Registry} {handled : Bool} {c : ClassRef}
  {cs before after : List ClassRef} {ss : List Source} {fs : List Failure}
  {f : Registry.DescribeFault}

theorem not_escapes_default : ¬Escapes {} r c := by
  rintro ⟨f, hc, hkind⟩
  rw [Registry.describeBy_default] at hc
  unfold Registry.describe at hc
  split at hc
  · cases hc
    exact hkind rfl
  · cases hc

theorem Reports.perm (h : Reports k r cs ss fs) :
    (ss.map sourceKey ++ fs.map failureKey).Perm (cs.map classKey) := by
  induction h with
  | nil => exact .nil
  | described hc _ ih =>
    obtain ⟨-, hmodule, hqualname⟩ := label_of_describeBy hc
    have hkey : sourceKey _ = classKey _ := Prod.ext hmodule hqualname
    rw [List.map_cons, List.map_cons, hkey]
    exact ih.cons _
  | failed hc _ _ ih => exact List.perm_middle.trans (ih.cons _)

/-- Classes are reported ahead of others as long as describing them raises nothing else. -/
theorem describeEach_append {answer : Except Fault (List Source) × List Failure}
    (hbefore : ∀ c ∈ before, ¬Escapes k r c) (hafter : describeEach k r true after = answer) :
    ∃ ss fs, Reports k r before ss fs ∧
      describeEach k r true (before ++ after) = (answer.1.map (ss ++ ·), fs ++ answer.2) := by
  obtain ⟨result, failures⟩ := answer
  induction before with
  | nil =>
    refine ⟨[], [], .nil, hafter.trans ?_⟩
    cases result <;> rfl
  | cons c cs ih =>
    obtain ⟨hc, hcs⟩ := List.forall_mem_cons.mp hbefore
    obtain ⟨ss, fs, hreports, heach⟩ := ih hcs
    rw [List.cons_append]
    unfold describeEach
    rw [heach]
    cases hdescribe : r.describeBy k c with
    | ok s =>
      refine ⟨s :: ss, fs, .described hdescribe hreports, ?_⟩
      cases result <;> rfl
    | error f =>
      have hkind : f.fault.kind = .badType := not_not.mp fun hkind => hc ⟨f, hdescribe, hkind⟩
      refine ⟨ss, ⟨c.label, f.message⟩ :: fs, .failed hdescribe hkind hreports, ?_⟩
      simp only [hkind]
      rfl

theorem describeEach_congr (h : ∀ c ∈ cs, r'.describeBy k' c = r.describeBy k c) :
    describeEach k' r' handled cs = describeEach k r handled cs := by
  induction cs with
  | nil => rfl
  | cons c cs ih =>
    unfold describeEach
    rw [h c List.mem_cons_self, ih fun d hd => h d (List.mem_cons_of_mem _ hd)]

end Reports

section Search

variable {p p' : Program} {modules names more before after : List String} {included : Bool}
  {left right : List Entry} {cs cs' ds again : List ClassRef} {r s last last' : Registry}
  {module name : String} {c : ClassRef} {e : Entry} {loaded : Loaded}

theorem discover_eq (h : Collects p.load p.registry (p.leads modules included) cs last) :
    discover p modules included true =
      match describeEach p.comparison last true (firstOnly [] cs) with
      | (.ok described, failures) => .ok ⟨described, failures, failures.map (·.record) ++
          [⟨.debug, searchLogger, s!"Discovered {described.length} marked types"⟩]⟩
      | (.error f, failures) => .error ⟨f, failures⟩ := by
  unfold discover
  rw [collect_eq_ok.mpr h]
  simp only [Except.mapError, ok_bind]
  rcases describeEach p.comparison last true (firstOnly [] cs) with ⟨_ | described, failures⟩ <;>
    rfl

/-- A search that hands over its failures reports whatever it collected, if describing that raises
nothing else. -/
theorem exists_discover (h : Collects p.load p.registry (p.leads modules included) cs last)
    (hdescribe : ∀ c ∈ firstOnly [] cs, ¬Escapes p.comparison last c) :
    ∃ found, discover p modules included true = .ok found ∧
      Reports p.comparison last (firstOnly [] cs) found.described found.failures := by
  have hnil : describeEach p.comparison last true [] = (.ok [], []) := rfl
  obtain ⟨ss, fs, hreports, heach⟩ := describeEach_append hdescribe hnil
  rw [List.append_nil] at heach
  rw [discover_eq h, heach]
  refine ⟨_, rfl, ?_⟩
  simpa using hreports

/-- A search fails over the first class whose description raises anything else, after those before it
were reported. -/
theorem exists_discover_error (h : Collects p.load p.registry (p.leads modules included) cs last)
    {met rest : List ClassRef} (hfirsts : firstOnly [] cs = met ++ c :: rest)
    (hmet : ∀ d ∈ met, ¬Escapes p.comparison last d) {f : Registry.DescribeFault}
    (hc : last.describeBy p.comparison c = .error f) (hkind : f.fault.kind ≠ .badType) :
    ∃ ss fs, Reports p.comparison last met ss fs ∧
      discover p modules included true = .error ⟨f.fault, fs⟩ := by
  have hrest : describeEach p.comparison last true (c :: rest) = (.error f.fault, []) := by
    unfold describeEach
    simp only [hc, if_pos hkind]
  obtain ⟨ss, fs, hreports, heach⟩ := describeEach_append hmet hrest
  refine ⟨ss, fs, hreports, ?_⟩
  rw [discover_eq h, hfirsts, heach, List.append_nil]
  rfl

theorem reports_of_discover {found : Found} (h : discover p modules included true = .ok found) :
    ∃ cs last, Collects p.load p.registry (p.leads modules included) cs last ∧
      Reports p.comparison last (firstOnly [] cs) found.described found.failures := by
  obtain ⟨⟨cs, last⟩, hcollect, -⟩ := bind_eq_ok.mp h
  have hcollects := collect_eq_ok.mp (mapError_eq_ok.mp hcollect)
  refine ⟨cs, last, hcollects, ?_⟩
  by_cases hescapes : ∃ c ∈ firstOnly [] cs, Escapes p.comparison last c
  · obtain ⟨met, c, rest, hfirsts, hmet, f, hc, hkind⟩ := exists_first hescapes
    obtain ⟨_, _, -, hfails⟩ := exists_discover_error hcollects hfirsts hmet hc hkind
    cases h.symm.trans hfails
  · obtain ⟨found', hfound, hreports⟩ :=
      exists_discover hcollects fun c hc hescape => hescapes ⟨c, hc, hescape⟩
    cases h.symm.trans hfound
    exact hreports

theorem discover_congr (h : Collects p.load p.registry (p.leads modules included) cs last)
    {modules' : List String} {included' : Bool}
    (h' : Collects p'.load p'.registry (p'.leads modules' included') cs' last')
    (halike : MetAlike cs cs')
    (hdescribe : ∀ c ∈ firstOnly [] cs,
      last'.describeBy p'.comparison c = last.describeBy p.comparison c) :
    discover p' modules' included' true = discover p modules included true := by
  have heach : describeEach p'.comparison last' true (firstOnly [] cs) =
      describeEach p.comparison last true (firstOnly [] cs) := describeEach_congr hdescribe
  rw [discover_eq h, discover_eq h', halike.firsts, heach]

/-! ## What changes nothing -/

theorem mem_joinNames (h : name ∈ names) : name ∈ joinNames names more := by
  unfold joinNames
  induction more generalizing names with
  | nil => exact h
  | cons other more ih =>
    rw [List.foldl_cons]
    split
    · exact ih h
    · exact ih (List.mem_append_left _ h)

theorem joinNames_of_mem (h : name ∈ names) :
    joinNames names (before ++ name :: after) = joinNames names (before ++ after) := by
  have hmem : name ∈ joinNames names before := mem_joinNames h
  unfold joinNames at hmem ⊢
  rw [List.foldl_append, List.foldl_append, List.foldl_cons, if_pos (by simpa using hmem)]

theorem leads_append : p.leads (before ++ after) included =
    before.map .module ++ p.leads after included := by
  unfold Program.leads
  rw [List.map_append, List.append_assoc]

/-- Naming a module adds nothing if loading it there changes nothing and its classes were met. -/
theorem discover_named
    (h : Collects p.load p.registry (p.leads (before ++ after) included) cs last)
    (hbefore : Collects p.load p.registry (before.map .module) ds s) (hload : p.load name s = .ok s)
    (hmet : (markedClasses s name).map classKey ⊆ ds.map classKey) :
    discover p (before ++ name :: after) included true =
      discover p (before ++ after) included true := by
  obtain ⟨cs', h', halike⟩ := Collects.insert (leads_append ▸ h) hbefore (.module hload) hmet
  exact discover_congr h (by rw [leads_append]; exact h') halike fun _ _ => rfl

/-- Where loading changes nothing, naming a module again adds nothing. -/
theorem discover_named_again (hidle : ∀ name r s, p.load name r = .ok s → s = r)
    (h : Collects p.load p.registry (p.leads (before ++ after) included) cs last)
    (hname : name ∈ before) :
    discover p (before ++ name :: after) included true =
      discover p (before ++ after) included true := by
  obtain ⟨ds, -, s, hbefore, -, -⟩ := exists_of_collects_append (leads_append ▸ h)
  obtain ⟨rfl, rfl, hload⟩ := hbefore.of_modules hidle
  refine discover_named h hbefore (hload name hname) (List.map_subset _ fun c hc => ?_)
  exact List.mem_flatMap.mpr ⟨name, hname, hc⟩

/-- An entry adds nothing if loading it there changes nothing and its classes were met. -/
theorem discover_entered (hentries : p.entries = left ++ right)
    (h : Collects p.load p.registry (p.leads modules included) cs last)
    (hbefore : Collects p.load p.registry (modules.map .module ++ left.map .entry) ds s)
    (hload : e.load s = .ok (loaded, s)) (hclasses : loaded.classes? s = some again)
    (hmet : again.map classKey ⊆ ds.map classKey) :
    discover { p with entries := left ++ e :: right } modules included true =
      discover p modules included true := by
  cases included with
  | false => rfl
  | true =>
    have hleads : p.leads modules true =
        modules.map .module ++ left.map .entry ++ right.map .entry := by
      unfold Program.leads
      rw [if_pos rfl, hentries, List.map_append, List.append_assoc]
    have hleads' : ({ p with entries := left ++ e :: right } : Program).leads modules true =
        modules.map .module ++ left.map .entry ++ .entry e :: right.map .entry := by
      unfold Program.leads
      rw [if_pos rfl, List.map_append, List.map_cons, List.append_assoc]
    rw [hleads] at h
    obtain ⟨cs', h', halike⟩ := h.insert hbefore (.entry hload hclasses) hmet
    exact discover_congr (by rw [hleads]; exact h) (by rw [hleads']; exact h') halike
      fun _ _ => rfl

theorem discover_alias (h : Collects p.load p.registry (p.leads modules included) cs last)
    (halias : AddsAlias p p' module name c)
    (hfree : ∀ d ∈ firstOnly [] cs, ¬last.RefersFrom module d name) :
    discover p' modules included true = discover p modules included true := by
  obtain ⟨cs', last', h', hmet, halike⟩ :=
    h.alike (halias.leads modules included) halias.registry
  refine discover_congr h h' hmet fun d hd => ?_
  rw [halias.comparison]
  rcases halike with rfl | halike
  · rfl
  · exact halike.agreeOff.describeBy_eq _ (hfree d hd)

/-- A search whose modules and entries can all be loaded reports each marked class once, where it is
first met, as described or as failed, unless describing one raises what is no describing failure; the
first such one ends it, after the failures before it were handed over. The answer stays the same when
a module is named later, or an entry is added, that changes nothing when it is loaded there and has
no classes but those that were met, when a class gets another name to which none of the classes
refers, and when a name is given that is already configured. -/
theorem discover_reports (h : Collects p.load p.registry (p.leads modules included) cs last) :
    ∃ firsts, Firsts cs firsts ∧ (firsts.map classKey).Nodup ∧
      ((∀ c ∈ firsts, ¬Escapes p.comparison last c) →
        ∃ found, discover p modules included true = .ok found ∧
          Reports p.comparison last firsts found.described found.failures ∧
          (found.described.map sourceKey ++ found.failures.map failureKey).Perm
            (firsts.map classKey)) ∧
      (∀ met c rest f, firsts = met ++ c :: rest → (∀ d ∈ met, ¬Escapes p.comparison last d) →
        last.describeBy p.comparison c = .error f → f.fault.kind ≠ .badType →
        ∃ ss fs, Reports p.comparison last met ss fs ∧
          discover p modules included true = .error ⟨f.fault, fs⟩) ∧
      (∀ before after name ds s, modules = before ++ after →
        Collects p.load p.registry (before.map .module) ds s → p.load name s = .ok s →
        (markedClasses s name).map classKey ⊆ ds.map classKey →
        discover p (before ++ name :: after) included true =
          discover p modules included true) ∧
      (∀ left right e loaded ds s again, p.entries = left ++ right →
        Collects p.load p.registry (modules.map .module ++ left.map .entry) ds s →
        e.load s = .ok (loaded, s) → loaded.classes? s = some again →
        again.map classKey ⊆ ds.map classKey →
        discover { p with entries := left ++ e :: right } modules included true =
          discover p modules included true) ∧
      (∀ p' module name c, AddsAlias p p' module name c →
        (∀ d ∈ firsts, ¬last.RefersFrom module d name) →
        discover p' modules included true = discover p modules included true) ∧
      (∀ (config : Config) (asked : Option Bool) (before after : List String),
        ∀ name ∈ config.modules,
          findClasses p config (before ++ name :: after) asked =
            findClasses p config (before ++ after) asked) := by
  refine ⟨_, firsts_firstOnly, firsts_firstOnly.nodup, ?_, ?_, ?_, ?_, ?_, ?_⟩
  · intro hdescribe
    obtain ⟨found, hfound, hreports⟩ := exists_discover h hdescribe
    exact ⟨found, hfound, hreports, hreports.perm⟩
  · intro met c rest f hfirsts hmet hc hkind
    exact exists_discover_error h hfirsts hmet hc hkind
  · rintro before after name ds s rfl hbefore hload hmet
    exact discover_named h hbefore hload hmet
  · intro left right e loaded ds s again hentries hbefore hload hclasses hmet
    exact discover_entered hentries h hbefore hload hclasses hmet
  · intro p' module name c halias hfree
    exact discover_alias h halias hfree
  · intro config asked before after name hname
    unfold findClasses
    rw [joinNames_of_mem hname]

end Search

def unitClass : ClassRef := .defined 0 ⟨"Unit", "game.units", "Unit"⟩ none

def squadClass : ClassRef := .defined 1 ⟨"Squad", "game.units", "Squad"⟩ none

/-- A module with two marked classes, and with further attributes after them. -/
def muster (more : List (String × Value)) : Registry where
  classes := [⟨unitClass.label, [unitClass, objectClass],
      .record false [("hp", .cls (.builtin "int"))], none, []⟩,
    ⟨squadClass.label, [squadClass, objectClass], .record false [("leader", .forward "Hero")],
      none, []⟩]
  modules := [⟨"game.units",
    [("Unit", .hint (.cls unitClass)), ("Squad", .hint (.cls squadClass))] ++ more⟩]
  markers := [(unitClass, .bool true), (squadClass, .bool true)]

theorem collects_muster (included : Bool) :
    Collects loadPresent (muster []) (Program.leads { registry := muster [] } ["game.units"] included)
      [unitClass, squadClass] (muster []) := by
  cases included <;> exact collect_eq_ok.mp rfl

theorem hasAlias_muster {name : String} (hname : name ∉ ["Unit", "Squad"]) :
    HasAlias (muster []) (muster [(name, .hint (.cls unitClass))]) "game.units" name unitClass where
  rest := ⟨_, rfl, rfl⟩
  others other hother := by simp [Registry.module?, muster, hother.symm]
  attributes := ⟨_, [], rfl, rfl, hname, fun _ => List.mem_cons_self⟩

theorem addsAlias_muster {name : String} (hname : name ∉ ["Unit", "Squad"]) :
    AddsAlias { registry := muster [] } { registry := muster [(name, .hint (.cls unitClass))] }
      "game.units" name unitClass where
  comparison := rfl
  registry := .inr (hasAlias_muster hname)
  load _ _ _ _ := loadPresent_alike
  entries := .nil

theorem not_refersFrom_muster {d : ClassRef} {name : String} (hd : d ∈ [unitClass, squadClass])
    (hname : name ≠ "Hero") : ¬(muster []).RefersFrom "game.units" d name := by
  let s := Scope.ofClass (muster []) squadClass
  have hnames : s.registry.platform.evaluator.names "Hero" = ["Hero"] := by decide +kernel
  have hattributes : s.registry.platform.evaluator.attributes "Hero" = [] := by decide +kernel
  have hvalue : (s.evaluate "Hero").toOption.isNone = true := by decide +kernel
  have hrefers {use : Use} (h : Refers s "Hero" use) : use = .name "Hero" := by
    rcases h with hname | hattribute | ⟨hok, -, -⟩
    · rw [hnames] at hname
      rw [List.mem_singleton.mp hname]
    · rw [hattributes] at hattribute
      cases hattribute
    · rw [hok] at hvalue
      cases hvalue
  rintro ⟨a, ha, p, hp, text, htext, h⟩
  have hhero : a = squadClass ∧ text = "Hero" := by
    rcases List.mem_pair.mp hd with rfl | rfl <;> rcases List.mem_pair.mp ha with rfl | rfl
    · cases List.mem_singleton.mp hp
      cases htext
    · cases hp
    · cases List.mem_singleton.mp hp
      exact ⟨rfl, List.mem_singleton.mp htext⟩
    · cases hp
  obtain ⟨rfl, rfl⟩ := hhero
  rcases h with h | ⟨-, h⟩
  · cases hrefers h
  · cases hrefers h
    exact hname rfl

theorem discover_muster :
    ((discover { registry := muster [] } ["game.units"] true true).toOption.map fun found =>
      (found.described.map sourceKey, found.failures.map failureKey)) =
      some ([("game.units", "Unit")], [("game.units", "Squad")]) := by
  decide +kernel

/-- One class is described and one fails, and so it stays when the module is named twice, when it is
registered too, and when a class gets a name that is not referred to. -/
theorem discover_reports_muster :
    let p : Program := { registry := muster [] }
    ∃ found, discover p ["game.units"] true true = .ok found ∧
      found.described.map sourceKey = [("game.units", "Unit")] ∧
      found.failures.map failureKey = [("game.units", "Squad")] ∧
      discover p ["game.units", "game.units"] true true = .ok found ∧
      discover { p with entries := [⟨"units", fun r => .ok (.module "game.units", r)⟩] }
        ["game.units"] true true = .ok found ∧
      discover { registry := muster [("Soldier", .hint (.cls unitClass))] } ["game.units"] true
        true = .ok found := by
  intro p
  obtain ⟨firsts, hfirsts, -, hreports, -, hnamed, hentered, halias, -⟩ :=
    discover_reports (p := p) (collects_muster true)
  obtain ⟨found, hfound, -⟩ := hreports fun c _ => not_escapes_default
  have hkeys := discover_muster
  rw [hfound] at hkeys
  have hkeys := Prod.mk.inj (Option.some.inj hkeys)
  have hmodule : Collects loadPresent (muster []) [.module "game.units"] [unitClass, squadClass]
      (muster []) := collects_muster false
  refine ⟨found, hfound, hkeys.1, hkeys.2, ?_, ?_, ?_⟩
  · exact (hnamed ["game.units"] [] "game.units" _ _ rfl hmodule rfl (List.Subset.refl _)).trans hfound
  · exact (hentered [] [] _ _ _ _ _ rfl hmodule rfl rfl (List.Subset.refl _)).trans hfound
  · refine (halias _ _ _ _ (addsAlias_muster (by simp)) fun d hd => ?_).trans hfound
    exact not_refersFrom_muster (hfirsts.subset hd) (by decide)

/-- A program with a marked class whose field is declared by an object that has no name and equals a
class of numbers. -/
def armory : Program where
  registry :=
    { classes := [⟨unitClass.label, [unitClass, objectClass],
        .record false [("strength", .object elementType)], none, []⟩]
      modules := [⟨"game.units", [("Unit", .hint (.cls unitClass))]⟩]
      markers := [(unitClass, .bool true)] }
  comparison := weighing

def reserve : Program where
  registry := { muster [] with markers := [(unitClass, .bool true)] }
  load name r := .ok (if name = "game.camp" then r.mark squadClass (.bool true) else r)

/-- Another name for a class changes the report when a hint refers to that name. A class whose
description raises an attribute failure is neither described nor handed over. A module that is named
again has further classes when a module between has marked them. -/
theorem not_all_discover_alike :
    (¬∀ (p p' : Program) (modules : List String) (module name : String) (c : ClassRef),
      (∃ cs last, Collects p.load p.registry (p.leads modules true) cs last) →
      AddsAlias p p' module name c →
      (discover p' modules true true).map (·.failures) =
        (discover p modules true true).map (·.failures)) ∧
    (¬∀ (p : Program) (modules : List String),
      (∃ cs last, Collects p.load p.registry (p.leads modules true) cs last) →
      ∃ found, discover p modules true true = .ok found) ∧
    ¬∀ (p : Program) (before after : List String), ∀ name ∈ before,
      (∃ cs last, Collects p.load p.registry (p.leads (before ++ name :: after) true) cs last) →
      discover p (before ++ name :: after) true true = discover p (before ++ after) true true := by
  refine ⟨fun h => ?_, fun h => ?_, fun h => ?_⟩
  · have hsame := h { registry := muster [] }
      { registry := muster [("Hero", .hint (.cls unitClass))] } ["game.units"] "game.units" "Hero"
      unitClass ⟨_, _, collects_muster true⟩ (addsAlias_muster (by simp))
    have hcount := congrArg (fun failures => failures.toOption.map List.length) hsame
    revert hcount
    decide +kernel
  · obtain ⟨found, hfound⟩ := h armory ["game.units"] ⟨_, _, collect_eq_ok.mp rfl⟩
    have hnone : (discover armory ["game.units"] true true).toOption.isNone = true := by
      decide +kernel
    rw [hfound] at hnone
    cases hnone
  · have hsame := h reserve ["game.units", "game.camp"] [] "game.units" List.mem_cons_self
      ⟨_, _, collect_eq_ok.mp rfl⟩
    have hcount := congrArg (fun found => found.toOption.map (·.failures.length)) hsame
    revert hcount
    decide +kernel

end StructForge.Discovery
