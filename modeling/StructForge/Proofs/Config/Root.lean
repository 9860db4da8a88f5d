import StructForge.Proofs.Config.Loading

/-! # What a configuration file holds at its root

A document that is no mapping is refused, unless its text is blank or its value counts as absent:
then it is taken for an empty mapping, and the configuration is the standard one. A mapping is never
refused as something else. -/

namespace StructForge

open Files Schema Yaml

/-! ## The fault of the root -/

def SparesRoot {α : Type} (x : Except Fault α) : Prop :=
  x ≠ .error ConfigFault.notMapping.toFault

section Faults

variable {α β : Type} {P : Prop} {x : Except Fault α} {g : α → Except Fault β} {a : α}

theorem sparesRoot_ok : SparesRoot (.ok a) := nofun

theorem SparesRoot.bind (hx : SparesRoot x) (hg : ∀ a, SparesRoot (g a)) :
    SparesRoot (x >>= g) := by
  intro h
  rcases bind_eq_error.mp h with h | ⟨a, -, h⟩
  · exact hx h
  · exact hg a h

theorem StraysOn.sparesRoot (h : StraysOn P x) : SparesRoot x := by
  rcases h with ⟨⟨f, rfl, hkind⟩, -⟩ | ⟨⟨a, rfl⟩, -⟩
  · rintro ⟨⟩
    exact hkind rfl
  · exact sparesRoot_ok

theorem sparesRoot_refused {refusal : ConfigFault} (head rest : String)
    (hmessage : refusal.message = head ++ rest)
    (hhead : (head.toList.head?.any (· != '.')) = true) :
    SparesRoot (.error refusal.toFault : Except Fault α) := by
  intro heq
  injection heq with heq
  have hroot : refusal.message = ConfigFault.notMapping.message := congrArg Fault.message heq
  have hfirst : ConfigFault.notMapping.message.toList.head? = some '.' := by decide
  rw [← hroot, hmessage, String.toList_append, List.head?_append] at hfirst
  cases hchar : head.toList.head? with
  | none =>
    rw [hchar] at hhead
    cases hhead
  | some c =>
    rw [hchar] at hfirst hhead
    obtain rfl : c = '.' := Option.some.inj hfirst
    cases hhead

end Faults

namespace Config

section Root

variable {reader : DocumentReader} {t : Tree} {p file root : Path} {text : String} {d : Data}

theorem sparesRoot_ofData (hmap : d.isMap = true) : SparesRoot (ofData root d) := by
  unfold ofData
  rw [hmap]
  refine (Data.straysOn_textAt? _ _).sparesRoot.bind fun output => ?_
  refine (straysOn_namingOf d).sparesRoot.bind fun naming => ?_
  split
  · exact sparesRoot_refused "naming.type_prefix must be a valid identifier, got " _ rfl (by decide)
  refine (Data.straysOn_asTexts _).sparesRoot.bind fun modules => ?_
  refine (Data.straysOn_textAt? _ _).sparesRoot.bind fun policy => ?_
  dsimp only
  split
  · exact sparesRoot_refused "drop_policy must be one of warn, silent, got " _ rfl (by decide)
  · exact (Data.straysOn_textAt? _ _).sparesRoot.bind fun _ => sparesRoot_ok

theorem ofData_of_not_isMap (hmap : d.isMap = false) :
    ofData root d = .error ConfigFault.notMapping.toFault := by
  unfold ofData
  rw [hmap]
  rfl

theorem ofData_eq_root_iff :
    ofData root d = .error ConfigFault.notMapping.toFault ↔ d.isMap = false := by
  refine ⟨fun h => ?_, ofData_of_not_isMap⟩
  by_contra hmap
  exact sparesRoot_ofData (Bool.not_eq_false _ ▸ hmap) h

/-- The empty mapping asks for the standard configuration. -/
theorem ofData_empty : ofData root (.map []) = .ok (defaults root) := rfl

/-! ## Documents that are passed over -/

/-- Whether a document is taken for an empty mapping: its text is blank, or its value counts as
absent. -/
def IsPassedOver (text : String) (d : Data) : Prop :=
  (Text.trim text).isEmpty = true ∨ d.isBlank = true

instance (text : String) (d : Data) : Decidable (IsPassedOver text d) :=
  inferInstanceAs (Decidable (_ ∨ _))

theorem documentOf_eq (hd : reader text = .ok d) :
    documentOf reader text = .ok (if IsPassedOver text d then .map [] else d) := by
  unfold documentOf
  by_cases htrim : (Text.trim text).isEmpty = true
  · rw [if_pos htrim, if_pos (.inl htrim)]
  · rw [if_neg htrim, hd]
    exact congrArg Except.ok (if_congr (or_iff_right htrim).symm rfl rfl)

theorem exists_resolve_parent (htext : t.readText file = .ok text) :
    ∃ root, t.resolve file.parent = .ok root := by
  obtain ⟨content, hread⟩ := Tree.exists_read_of_readText htext
  have hnull : file.holdsNull = false := (Tree.reach_of_read hread).1
  have hparent : file.parent.holdsNull = false := by
    unfold Path.holdsNull at hnull ⊢
    rw [List.any_eq_false] at hnull ⊢
    exact fun name hname => hnull name (List.dropLast_subset _ hname)
  unfold Tree.resolve
  rw [hparent]
  exact ⟨_, rfl⟩

theorem load_eq_ofData (hfile : fileFor t p = .ok file) (htext : t.readText file = .ok text)
    (hd : reader text = .ok d) (hroot : t.resolve file.parent = .ok root) :
    load t p reader = ofData root (if IsPassedOver text d then .map [] else d) := by
  obtain ⟨content, hread⟩ := Tree.exists_read_of_readText htext
  obtain ⟨hnull, hreach⟩ := Tree.reach_of_read hread
  have hdocument : document reader t file = .ok (if IsPassedOver text d then .map [] else d) := by
    unfold document
    refine bind_eq_ok.mpr ⟨true, has_of_reach hnull hreach, ?_⟩
    exact bind_eq_ok.mpr ⟨text, htext, documentOf_eq hd⟩
  rw [load_eq, hfile, ok_bind, hroot, ok_bind, hdocument, ok_bind]

/-- A document that can be loaded and is no mapping is refused as such exactly when it is not passed
over, and else the configuration is the standard one. A mapping is not refused as something else. -/
theorem refused_root_iff (hfile : fileFor t p = .ok file) (htext : t.readText file = .ok text)
    (hd : reader text = .ok d) :
    (load t p reader = .error ConfigFault.notMapping.toFault ↔
      d.isMap = false ∧ (Text.trim text).isEmpty = false ∧ d.isBlank = false) ∧
    (d.isMap = false → (Text.trim text).isEmpty = true ∨ d.isBlank = true →
      ∃ root, t.resolve file.parent = .ok root ∧ load t p reader = .ok (defaults root)) := by
  obtain ⟨root, hroot⟩ := exists_resolve_parent htext
  rw [load_eq_ofData hfile htext hd hroot]
  by_cases hover : IsPassedOver text d
  · rw [if_pos hover, ofData_empty]
    refine ⟨iff_of_false nofun ?_, fun _ _ => ⟨root, hroot, rfl⟩⟩
    rintro ⟨-, htrim, hblank⟩
    rcases hover with h | h
    · exact Bool.false_ne_true (htrim.symm.trans h)
    · exact Bool.false_ne_true (hblank.symm.trans h)
  · have hnot : (Text.trim text).isEmpty = false ∧ d.isBlank = false := by
      simpa [IsPassedOver] using hover
    rw [if_neg hover, ofData_eq_root_iff]
    exact ⟨(and_iff_left hnot).symm, fun _ h => absurd h hover⟩

end Root

def projectTree (text : String) : Tree :=
  { entries := [(["game"], .directory), (["game", configFileName], .file text.toUTF8)] }

/-- A project that is configured by a list is refused. -/
theorem refused_root_list :
    fileFor (projectTree "- hp\n") (.ofText "/game") =
      .ok (.ofText ("/game/" ++ configFileName)) ∧
    load (projectTree "- hp\n") (.ofText "/game") =
      .error ConfigFault.notMapping.toFault := by
  have hfile : fileFor (projectTree "- hp\n") (.ofText "/game") =
      .ok (.ofText ("/game/" ++ configFileName)) := by decide +kernel
  have htext : (projectTree "- hp\n").readText (.ofText ("/game/" ++ configFileName)) =
      .ok "- hp\n" := by decide +kernel
  obtain ⟨d, hd, hmap, hblank⟩ := exists_of_any (x := Data.ofText "- hp\n")
    (p := fun d => d.isMap = false ∧ d.isBlank = false) (by decide +kernel)
  exact ⟨hfile, (refused_root_iff hfile htext hd).1.mpr ⟨hmap, by decide +kernel, hblank⟩⟩

/-- Not every document is refused that is no mapping and holds something: an empty list passes. -/
theorem not_all_roots_refused : ¬∀ (t : Tree) (p file : Path) (text : String) (d : Data),
    fileFor t p = .ok file → t.readText file = .ok text → Data.ofText text = .ok d →
    d.isMap = false → d ≠ .null → ∃ f, load t p = .error f ∧ f.kind = .configuration := by
  intro h
  have hloads : (load (projectTree "[]\n") (.ofText "/game")).toOption.isSome = true := by
    decide +kernel
  have hd : Data.ofText "[]\n" = .ok (.list []) := rfl
  obtain ⟨f, hf, -⟩ := h (projectTree "[]\n") (.ofText "/game")
    (.ofText ("/game/" ++ configFileName)) "[]\n" (.list []) (by decide +kernel)
    (by decide +kernel) hd rfl nofun
  rw [hf] at hloads
  cases hloads

end Config

end StructForge
