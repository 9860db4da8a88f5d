import StructForge.Proofs.Struct.Hygiene
import StructForge.Struct.Part
import StructForge.Live.Describe

/-! # Names in the scope of a module

A loaded module evaluates its names in a scope. The scope gives a name the value of what the name
stands for, so that a module without captures evaluates its expressions to the classes that they
were made for. -/

namespace StructForge.Struct

open Live Container Schema

section Pieces

/-- Cutting a list at a separator leaves what comes before the first one in the first piece. -/
theorem splitAt_append {separator : Char} {cs : List Char} (hcs : separator ∉ cs) (ds : List Char) :
    Text.splitAt separator (cs ++ ds) =
      (cs ++ (Text.splitAt separator ds).headD []) :: (Text.splitAt separator ds).tail := by
  induction cs with
  | nil =>
    cases hpieces : Text.splitAt separator ds with
    | nil => exact absurd hpieces (Text.splitAt_ne_nil separator ds)
    | cons piece rest => simp [hpieces]
  | cons c rest ih =>
    rw [List.mem_cons, not_or] at hcs
    rw [List.cons_append, Text.splitAt, if_neg (Ne.symm hcs.1), ih hcs.2]
    rfl

/-- Another name without dots in the place of the first name of a dotted name is its first piece. -/
theorem pieces_append_splitHead {name : String} (hname : '.' ∉ name.toList) (qualname : String) :
    Text.pieces '.' (name ++ (splitHead qualname).2) = name :: (Text.pieces '.' qualname).tail := by
  have hhead : ((Text.splitAt '.' (splitHead qualname).2.toList).headD []) = [] := by
    rcases head?_splitHead qualname with hempty | hdot
    · rw [hempty]
      rfl
    · cases hrest : (splitHead qualname).2.toList with
      | nil => rfl
      | cons first others =>
        rw [hrest, List.head?_cons, Option.some.injEq] at hdot
        rw [hdot, Text.splitAt, if_pos rfl]
        rfl
  have hpieces {name : String} (hname : '.' ∉ name.toList) :
      Text.pieces '.' (name ++ (splitHead qualname).2) =
        name :: (Text.splitAt '.' (splitHead qualname).2.toList).tail.map String.ofList := by
    rw [Text.pieces, String.toList_append, splitAt_append hname, hhead, List.append_nil,
      List.map_cons, String.ofList_toList]
  have hself := hpieces (dot_not_mem_splitHead qualname)
  rw [splitHead_append_self] at hself
  rw [hpieces hname, hself]
  rfl

end Pieces

/-- The value of what a name stands for. The allocators, the numeric library and the built-in names
have none in a scope. -/
def StructModel.denote? (m : StructModel) (r : Registry) : Meaning → Option Value
  | .struct => some (.hint (.cls (m.cls r)))
  | .imported module name => moduleAttribute? r module name
  | .library n => n.value?
  | _ => none

namespace Scope

variable {r : Registry} {m : StructModel} {s : Scope} {name : String} {locals : List String}
  {x : Meaning} {i : Imports} {e : String} {c : ClassRef}

def libraryBindings (m : StructModel) : List (String × Value) :=
  m.runtimeImports.filterMap fun n => n.value?.map fun v => (n.text, v)

theorem mem_libraryBindings {v : Value} :
    (name, v) ∈ libraryBindings m ↔ ∃ n ∈ m.runtimeImports, n.text = name ∧ n.value? = some v := by
  simp only [libraryBindings, List.mem_filterMap, Option.map_eq_some_iff, Prod.mk.injEq]
  constructor
  · rintro ⟨n, hn, w, hw, rfl, rfl⟩
    exact ⟨n, hn, rfl, hw⟩
  · rintro ⟨n, hn, rfl, hw⟩
    exact ⟨n, hn, v, hw, rfl, rfl⟩

theorem lookup_libraryBindings_eq_none
    (h : ∀ n ∈ m.runtimeImports, n.text = name → n.value? = none) :
    (libraryBindings m).lookup name = none := by
  apply lookup_eq_none
  intro hmem
  obtain ⟨⟨key, v⟩, hpair, rfl⟩ := List.mem_map.mp hmem
  obtain ⟨n, hn, htext, hv⟩ := mem_libraryBindings.mp hpair
  rw [h n hn htext] at hv
  cases hv

theorem lookup_libraryBindings (name : String) :
    (libraryBindings m).lookup name = (m.libraryGlobals.lookup name).bind (m.denote? r) := by
  cases hlookup : m.libraryGlobals.lookup name with
  | none =>
    apply lookup_libraryBindings_eq_none
    intro n hn htext
    have hne := List.lookup_eq_none_iff.mp hlookup _
      (StructModel.mem_libraryGlobals.mpr (.inl ⟨n, hn, htext, rfl⟩))
    simp at hne
  | some x =>
    obtain ⟨n, hn, rfl, rfl⟩ | ⟨-, rfl, rfl⟩ :=
      StructModel.mem_libraryGlobals.mp (mem_of_lookup hlookup)
    · change _ = n.value?
      cases hv : n.value? with
      | none =>
        apply lookup_libraryBindings_eq_none
        intro n' _ htext
        rw [RuntimeName.text_injective htext, hv]
      | some v =>
        refine lookup_eq_some (mem_libraryBindings.mpr ⟨n, hn, rfl, hv⟩) fun w hw => ?_
        obtain ⟨n', -, htext, hw⟩ := mem_libraryBindings.mp hw
        rw [RuntimeName.text_injective htext, hv] at hw
        exact (Option.some.inj hw).symm
    · exact lookup_libraryBindings_eq_none fun n _ htext => absurd htext n.text_ne_numericName

theorem lookup_eq_bind (h : load r m = .ok s) (name : String) :
    s.bindings.lookup name = (m.globals.lookup name).bind (m.denote? r) := by
  obtain ⟨imported, himported, hpure⟩ := bind_eq_ok.mp h
  cases hpure
  have hfirst : List.Forall₂ (fun p q => p.1 = q.1 ∧ m.denote? r p.2 = some q.2)
      ((m.className, Meaning.struct) :: m.importedGlobals)
      ((m.className, Value.hint (.cls (m.cls r))) :: imported.reverse) := by
    refine .cons ⟨rfl, rfl⟩ (List.forall₂_reverse_iff.mpr (List.forall₂_map_left_iff.mpr ?_))
    refine (mapM_eq_ok.mp himported).imp fun b p hload => ?_
    unfold Binding.load at hload
    cases hv : moduleAttribute? r (Text.normal b.module) (Text.normal b.name) with
    | none => simp [hv] at hload
    | some v =>
      simp only [hv, Except.ok.injEq] at hload
      subst hload
      exact ⟨rfl, hv⟩
  obtain ⟨hlookup, hsome⟩ := lookup_of_forall₂ hfirst name
  change (((m.className, Value.hint (.cls (m.cls r))) :: imported.reverse) ++
    libraryBindings m).lookup name = ((((m.className, Meaning.struct) ::
      m.importedGlobals) ++ m.libraryGlobals).lookup name).bind (m.denote? r)
  rw [List.lookup_append, List.lookup_append, hlookup, lookup_libraryBindings]
  cases hx : List.lookup name ((m.className, Meaning.struct) :: m.importedGlobals) with
  | none => rfl
  | some x =>
    obtain ⟨v, hv⟩ := Option.isSome_iff_exists.mp (hsome x hx)
    simp [hv]

/-- A name in the body of a method that is none of its variables has the value of what it stands
for. -/
theorem lookup_of_meaning (h : load r m = .ok s) (hmeaning : m.meaning (.body locals) name = x)
    (hx : x ≠ .methodVariable) : s.bindings.lookup (m.read name) = m.denote? r x := by
  unfold StructModel.meaning at hmeaning
  change (if m.read name ∈ locals then _ else _) = x at hmeaning
  split at hmeaning
  · exact absurd hmeaning.symm hx
  · change (m.globals.lookup (m.read name)).getD _ = x at hmeaning
    rw [lookup_eq_bind h]
    cases hlookup : m.globals.lookup (m.read name) with
    | none =>
      rw [hlookup] at hmeaning
      cases hmeaning
      rfl
    | some y =>
      rw [hlookup] at hmeaning
      cases hmeaning
      rfl

theorem lookup_of_isPlain (h : load r m = .ok s) (hplain : Text.isPlain name = true)
    (hmeaning : m.meaning (.body locals) name = x) (hx : x ≠ .methodVariable) :
    s.bindings.lookup name = m.denote? r x := by
  have hread : m.read name = name := Text.readIn_of_isPlain hplain m.className
  rw [← lookup_of_meaning h hmeaning hx, hread]

theorem owner_of_load (h : load r m = .ok s) : s.owner = m.className := by
  obtain ⟨imported, -, hpure⟩ := bind_eq_ok.mp h
  cases hpure
  rfl

theorem map_readIn_of_load (h : load r m = .ok s) (names : List String) :
    names.map (Text.readIn s.owner) = names.map m.read := by
  rw [owner_of_load h]
  rfl

theorem registry_of_load (h : load r m = .ok s) : s.registry = r := by
  obtain ⟨imported, -, hpure⟩ := bind_eq_ok.mp h
  cases hpure
  rfl

end Scope

/-- A class is imported by its place: the module holds what the first name leads to, and the rest
are attributes from there. -/
def IsImportable (r : Registry) (c : ClassRef) : Prop :=
  Reference.IsImported (c.label.module, c.label.qualname) ∧
    ∃ v, moduleAttribute? r c.label.module (splitHead c.label.qualname).1 = some v ∧
      (Text.pieces '.' c.label.qualname).tail.foldlM r.attribute? v = some (.hint (.cls c))

/-- The classes whose values are copied into a struct. -/
inductive IsValueClass (r : Registry) : ClassRef → Prop
  | bool : IsValueClass r (.builtin "bool")
  | int : IsValueClass r (.builtin "int")
  | float : IsValueClass r (.builtin "float")
  | number (kind : Number.Kind) : IsValueClass r (.number kind)
  | enum {c : ClassRef} (henum : c.enumBase?.isSome = true) (himport : IsImportable r c) :
      IsValueClass r c
  | vector2 : IsValueClass r .vector2
  | vector3 : IsValueClass r .vector3

theorem describeClass_enum {r : Registry} {c : ClassRef} (henum : c.enumBase?.isSome = true) :
    r.describeClass c =
      .mk c.label.name c.label.module c.label.qualname .enum [] (r.isIntValued c) := by
  cases c with
  | enumBase base => rfl
  | defined index label enum =>
    simp only [Registry.describeClass]
    rw [if_pos henum]
  | _ => cases henum

theorem IsValueClass.eq_vector3 {r : Registry} {c : ClassRef} (h : IsValueClass r c)
    (hshape : (r.describeClass c).shape = .vector3) : c = .vector3 := by
  cases h with
  | enum henum =>
    rw [describeClass_enum henum] at hshape
    cases hshape
  | vector3 => rfl
  | _ => cases hshape

theorem IsValueClass.eq_vector2 {r : Registry} {c : ClassRef} (h : IsValueClass r c)
    (hshape : (r.describeClass c).shape = .vector2) : c = .vector2 := by
  cases h with
  | enum henum =>
    rw [describeClass_enum henum] at hshape
    cases hshape
  | vector2 => rfl
  | _ => cases hshape

def storedClass : ClassRef → ClassRef
  | .vector2 => .float2
  | .vector3 => .float3
  | c => c

theorem referenceMeaning_of_isImported {x : Reference} (h : x.IsImported) :
    referenceMeaning x = .imported x.1 (splitHead x.2).1 := by
  unfold referenceMeaning
  rw [if_neg h.1, if_neg h.2]

namespace Scope

variable {r : Registry} {m : StructModel} {s : Scope} {name : String} {locals : List String}
  {i : Imports} {asked : List Reference} {e : String} {c : ClassRef} {v : Value} {n : RuntimeName}

theorem find_library (hload : load r m = .ok s)
    (hmeaning : m.meaning (.body locals) n.text = .library n) (hv : n.value? = some v) :
    s.find n.text = v := by
  unfold find
  rw [lookup_of_isPlain hload n.isPlain_text hmeaning (by simp)]
  change (n.value?).getD _ = v
  rw [hv]
  rfl

theorem lookup_builtin {head : String} (hload : load r m = .ok s)
    (hplain : Text.isPlain name = true) (hmeaning : m.meaning (.body locals) name = .builtin head) :
    s.bindings.lookup name = none :=
  lookup_of_isPlain hload hplain hmeaning (by simp)

theorem find_builtin {head : String} (hload : load r m = .ok s)
    (hplain : Text.isPlain name = true) (hmeaning : m.meaning (.body locals) name = .builtin head) :
    s.find name = .hint (.cls (.builtin name)) := by
  unfold find
  rw [lookup_builtin hload hplain hmeaning]
  rfl

theorem allocator_eq (hload : load r m = .ok s)
    (hmeaning : m.meaning (.body locals) "Allocator" = .library .allocator) :
    s.allocator = .ok (.allocator .persistent) := by
  unfold allocator
  have hlookup : s.bindings.lookup "Allocator" = none :=
    lookup_of_isPlain hload RuntimeName.allocator.isPlain_text hmeaning (by simp)
  rw [hlookup]

/-- An expression whose attributes are read as written leads from the value of its first name. -/
theorem value_of_lookup (hload : load r m = .ok s) {names : List String}
    (hpieces : Text.pieces '.' e = name :: names) (hnames : ∀ a ∈ names, m.read a = a)
    (hlookup : s.bindings.lookup (m.read name) = some v) :
    s.value e = names.foldlM s.getAttribute v := by
  unfold value named find
  rw [hpieces, map_readIn_of_load hload, List.map_cons, List.map_congr_left hnames, List.map_id']
  simp only [hlookup]
  rfl

theorem getAttribute_foldlM (hregistry : s.registry = r) {names : List String} {w : Value}
    (h : names.foldlM r.attribute? v = some w) : names.foldlM s.getAttribute v = .ok w := by
  induction names generalizing v with
  | nil =>
    cases h
    rfl
  | cons name rest ih =>
    rw [List.foldlM_cons, Option.bind_eq_bind, Option.bind_eq_some_iff] at h
    obtain ⟨u, hu, hrest⟩ := h
    rw [List.foldlM_cons]
    refine bind_eq_ok.mpr ⟨u, ?_, ih hrest⟩
    unfold getAttribute
    rw [hregistry, hu]

theorem value_importable (hload : load r m = .ok s) (himport : IsImportable r c)
    (hname : '.' ∉ name.toList)
    (hattributes : ∀ a ∈ (Text.pieces '.' (name ++ (splitHead c.label.qualname).2)).tail,
      m.read a = a)
    (hmeaning : m.meaning (.body locals) name =
      .imported c.label.module (splitHead c.label.qualname).1) :
    s.value (name ++ (splitHead c.label.qualname).2) = .ok (.hint (.cls c)) := by
  obtain ⟨-, v, hv, hrest⟩ := himport
  have hpieces := pieces_append_splitHead hname c.label.qualname
  rw [hpieces] at hattributes
  rw [value_of_lookup hload hpieces hattributes ((lookup_of_meaning hload hmeaning (by simp)).trans
    hv)]
  exact getAttribute_foldlM (registry_of_load hload) hrest

/-- The expression for a built-in class of numbers has it as its value. -/
theorem value_builtin {head : String} (hload : load r m = .ok s)
    (hname : name ∈ ["bool", "int", "float"])
    (hmeaning : m.meaning (.body locals) name = .builtin head) :
    s.value name = .ok (.hint (.cls (.builtin name))) := by
  have hall : ∀ name ∈ ["bool", "int", "float"],
      Text.isPlain name = true ∧ Text.pieces '.' name = [name] ∧ name ∈ builtinClasses ∧
        name ≠ "np" := by
    decide +kernel
  obtain ⟨hplain, hpieces, hbuiltin, hnumpy⟩ := hall name hname
  have hlookup := lookup_builtin hload hplain hmeaning
  have hread : m.read name = name := Text.readIn_of_isPlain hplain m.className
  unfold value named find
  rw [hpieces, map_readIn_of_load hload, List.map_cons, List.map_nil, hread]
  simp [hlookup, hbuiltin]

/-- The expression for a class of fixed-width numbers has it as its value. -/
theorem value_number (hload : load r m = .ok s) (kind : Number.Kind)
    (hmeaning : m.meaning (.body locals) numericName = .numeric) :
    s.value ("np." ++ kind.name) = .ok (.hint (.cls (.number kind))) := by
  have hlookup : s.bindings.lookup "np" = none :=
    lookup_of_isPlain hload isPlain_numericName hmeaning (by simp)
  have hpieces : Text.pieces '.' ("np." ++ kind.name) = ["np", kind.name] := by
    cases kind <;> decide
  have hplain : Text.isPlain kind.name = true := by
    cases kind <;> decide +kernel
  have hread : m.read kind.name = kind.name := Text.readIn_of_isPlain hplain m.className
  have hreadNumpy : m.read "np" = "np" := Text.readIn_of_isPlain isPlain_numericName m.className
  have hkind : ClassRef.ofNumericName kind.name = .number kind := by
    cases kind <;> decide
  unfold value
  rw [hpieces, map_readIn_of_load hload, List.map_cons, List.map_cons, List.map_nil, hread,
    hreadNumpy]
  simp only [hlookup, hkind]

theorem value_numberClass {head : String} (hload : load r m = .ok s)
    (hhead : head ∈ ["bool", "int", "float"]) (hdenotes : i.Denotes ("builtins", head) e)
    (hmeaning : m.meaning (.body locals) (splitHead e).1 = referenceMeaning ("builtins", head)) :
    s.value e = .ok (.hint (.cls (.builtin head))) := by
  rcases hdenotes with ⟨-, he⟩ | ⟨hmodule, -⟩ | ⟨himported, -⟩
  · have hsplit : (splitHead head).1 = head := by
      simp only [List.mem_cons, List.not_mem_nil, or_false] at hhead
      rcases hhead with rfl | rfl | rfl <;> decide
    change e = head at he
    change m.meaning (.body locals) (splitHead e).1 = .builtin (splitHead head).1 at hmeaning
    rw [he, hsplit] at hmeaning
    rw [he]
    exact value_builtin hload hhead hmeaning
  · exact absurd (show "builtins" = "numpy" from hmodule) (by decide)
  · exact absurd rfl himported.1

theorem value_element (hload : load r m = .ok s) (hsound : i.IsSound asked)
    (hclass : IsValueClass r c) (helement : ElementType i (r.describeClass c) e)
    (hattributes : ∀ a ∈ (Text.pieces '.' e).tail, m.read a = a)
    (hmeaning : m.meaning (.body locals) (splitHead e).1 = elementMeaning (r.describeClass c)) :
    s.value e = .ok (.hint (.cls (storedClass c))) := by
  cases helement with
  | vector3 hshape hbound =>
    obtain rfl : c = .vector3 := hclass.eq_vector3 hshape
    change m.meaning (.body locals) (splitHead "float3").1 = .library .float3 at hmeaning
    rw [show (splitHead "float3").1 = "float3" by decide] at hmeaning
    exact value_of_lookup hload (by decide : Text.pieces '.' "float3" = ["float3"]) (by simp)
      (lookup_of_meaning hload hmeaning (by simp))
  | vector2 hshape hbound =>
    obtain rfl : c = .vector2 := hclass.eq_vector2 hshape
    change m.meaning (.body locals) (splitHead "float2").1 = .library .float2 at hmeaning
    rw [show (splitHead "float2").1 = "float2" by decide] at hmeaning
    exact value_of_lookup hload (by decide : Text.pieces '.' "float2" = ["float2"]) (by simp)
      (lookup_of_meaning hload hmeaning (by simp))
  | other hshape hdenotes =>
    cases hclass with
    | bool => exact value_numberClass hload (by simp) hdenotes hmeaning
    | int => exact value_numberClass hload (by simp) hdenotes hmeaning
    | float => exact value_numberClass hload (by simp) hdenotes hmeaning
    | number kind =>
      change m.meaning (.body locals) (splitHead e).1 = .numeric at hmeaning
      rcases hdenotes with ⟨hmodule, -⟩ | ⟨-, rfl, -⟩ | ⟨himported, -⟩
      · exact absurd (show "numpy" = "builtins" from hmodule) (by decide)
      · have hhead : (splitHead ("np." ++ kind.name)).1 = numericName := by cases kind <;> decide
        change m.meaning (.body locals) (splitHead ("np." ++ kind.name)).1 = .numeric at hmeaning
        rw [hhead] at hmeaning
        exact value_number hload kind hmeaning
      · exact absurd rfl himported.2
    | enum henum himport =>
      rw [describeClass_enum henum] at hdenotes hmeaning
      rcases hdenotes with ⟨hmodule, -⟩ | ⟨hmodule, -⟩ | ⟨-, b, hb, hmodule, hname, rfl⟩
      · exact absurd hmodule himport.1.1
      · exact absurd hmodule himport.1.2
      · have hdot := hsound.dot_not_mem hb
        rw [splitHead_append hdot] at hmeaning
        have hstored : storedClass c = c := by
          cases c <;> first | rfl | cases henum
        rw [hstored]
        exact value_importable hload himport hdot hattributes
          (hmeaning.trans (referenceMeaning_of_isImported himport.1))
    | vector2 => cases hshape
    | vector3 => cases hshape

end Scope

end StructForge.Struct
