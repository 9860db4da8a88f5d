import StructForge.Proofs.Config.Root
import StructForge.Proofs.Files.FileNames

/-! # Prefixes and the names they make

The prefix of a configuration is checked when the configuration is loaded, and the name that it makes
when a struct is named. Both checks ask for identifiers, and since these are closed under
concatenation the second one never fails on a name that is an identifier itself. Names and their
suffixes are only written one after the other, so different names stay different. -/

namespace StructForge

open Files Schema Yaml

namespace Text

theorem isIdentifier_append {s t : String} (hs : isIdentifier s = true)
    (ht : isIdentifier t = true) : isIdentifier (s ++ t) = true := by
  unfold isIdentifier at hs ht ⊢
  rw [String.toList_append]
  exact spellsIdentifier_append hs (all_continue_of_spells ht)

end Text

namespace Config

variable {root : Path} {text : String}

def AcceptsPrefix (text : String) : Prop :=
  ∃ root d c, ofData root d = .ok c ∧ c.naming.typePrefix = text

def prefixDocument (text : String) : Data :=
  .map [(.text "naming", .map [(.text "type_prefix", .text text)])]

theorem ofData_prefixDocument (htext : text = "" ∨ Text.isIdentifier text = true) :
    ofData root (prefixDocument text) =
      .ok { defaults root with naming := { typePrefix := text } } := by
  have hbad := (@badPrefix_eq_false { typePrefix := text }).mpr htext
  unfold ofData prefixDocument
  change (if !text.isEmpty && !Text.isIdentifier text then _ else _) = _
  rw [hbad]
  rfl

theorem acceptsPrefix_iff :
    AcceptsPrefix text ↔ text = "" ∨ Text.isIdentifier text = true := by
  constructor
  · rintro ⟨root, d, c, hload, rfl⟩
    exact (isProper_of_ofData hload).2.typePrefix
  · exact fun htext => ⟨.ofText "/", _, _, ofData_prefixDocument htext, rfl⟩

theorem acceptsPrefix_of_load {reader : DocumentReader} {t : Tree} {p : Path} {c : Config}
    (h : load t p reader = .ok c) : AcceptsPrefix c.naming.typePrefix := by
  obtain ⟨file, d, -, -, -, hproper⟩ := exists_of_load h
  exact acceptsPrefix_iff.mpr hproper.typePrefix

end Config

section Target

variable {n : Naming} {s s' : Source} {t t' : Target}

theorem isIdentifier_of_acceptsPrefix (haccepts : Config.AcceptsPrefix n.typePrefix)
    (hname : Text.isIdentifier s.name = true) :
    Text.isIdentifier (n.typePrefix ++ s.name) = true := by
  rcases Config.acceptsPrefix_iff.mp haccepts with hempty | hidentifier
  · rw [hempty, String.empty_append]
    exact hname
  · exact Text.isIdentifier_append hidentifier hname

theorem target_of_isIdentifier (h : Text.isIdentifier (n.typePrefix ++ s.name) = true) :
    n.target s = .ok ⟨n.typePrefix ++ s.name, n.typePrefix ++ s.name ++ n.fileSuffix, s.name,
      s.module, s.qualname⟩ := by
  unfold Naming.target
  exact if_pos h

theorem typeName_of_target (h : n.target s = .ok t) : t.typeName = n.typePrefix ++ s.name := by
  rw [target_of_isIdentifier (fileName_of_target h).1] at h
  cases h
  rfl

/-- The suffix can be taken off again, and so can the prefix. -/
theorem name_eq_of_target (h : n.target s = .ok t) (h' : n.target s' = .ok t')
    (heq : t.typeName = t'.typeName ∨ t.fileName = t'.fileName) : s.name = s'.name := by
  have hnames : n.typePrefix ++ s.name = n.typePrefix ++ s'.name := by
    rcases heq with heq | heq
    · rwa [typeName_of_target h, typeName_of_target h'] at heq
    · rwa [(fileName_of_target h).2, (fileName_of_target h').2, String.append_left_inj] at heq
  rwa [String.append_right_inj] at hnames

end Target

/-- A configuration has an empty prefix or one that is an identifier, such a prefix names every
source whose own name is an identifier, and the names of a struct and of its file tell its source's
name. -/
theorem accepted_prefix_names :
    (∀ (reader : DocumentReader) (t : Tree) (p : Path) (c : Config),
      Config.load t p reader = .ok c → Config.AcceptsPrefix c.naming.typePrefix) ∧
    (∀ text, Config.AcceptsPrefix text ↔ text = "" ∨ Text.isIdentifier text = true) ∧
    (∀ (n : Naming) (s : Source), Config.AcceptsPrefix n.typePrefix →
      Text.isIdentifier s.name = true → ∃ t, n.target s = .ok t ∧
        t.typeName = n.typePrefix ++ s.name ∧ t.fileName = t.typeName ++ n.fileSuffix) ∧
    ∀ (n : Naming) (s s' : Source) (t t' : Target), n.target s = .ok t → n.target s' = .ok t' →
      t.typeName = t'.typeName ∨ t.fileName = t'.fileName → s.name = s'.name :=
  ⟨fun _ _ _ _ => Config.acceptsPrefix_of_load, fun _ => Config.acceptsPrefix_iff,
    fun _ _ haccepts hname =>
      ⟨_, target_of_isIdentifier (isIdentifier_of_acceptsPrefix haccepts hname), rfl, rfl⟩,
    fun _ _ _ _ _ => name_eq_of_target⟩

/-- A class whose name has a digit outside ASCII, which may only continue an identifier. -/
def kraft : Source := ⟨"Kraft٣", "game.units", "Kraft٣", []⟩

def rivalKraft : Source := ⟨"Kraft٣", "game.rivals", "Outer.Kraft٣", []⟩

theorem accepted_prefix_names_kraft : ∃ c t t',
    Config.load (Config.projectTree "naming:\n  type_prefix: Größe\n  file_suffix: _gen.py\n")
      (.ofText "/game") = .ok c ∧
    Text.isIdentifier kraft.name = true ∧ c.naming.target kraft = .ok t ∧
    t.fileName = "GrößeKraft٣_gen.py" ∧ c.naming.target rivalKraft = .ok t' ∧
    t.fileName = t'.fileName ∧ kraft.name = rivalKraft.name := by
  obtain ⟨c, hload, hnaming⟩ := exists_of_any
    (x := Config.load (Config.projectTree "naming:\n  type_prefix: Größe\n  file_suffix: _gen.py\n")
      (.ofText "/game"))
    (p := fun c => c.naming = ⟨"Größe", "_gen.py"⟩) (by decide +kernel)
  obtain ⟨haccepts, -, hnames, hinjective⟩ := accepted_prefix_names
  have hname : Text.isIdentifier kraft.name = true := by decide +kernel
  obtain ⟨t, ht, htype, hfile⟩ := hnames c.naming kraft (haccepts _ _ _ c hload) hname
  obtain ⟨t', ht', htype', hfile'⟩ := hnames c.naming rivalKraft (haccepts _ _ _ c hload) hname
  have hsame : t.fileName = t'.fileName := by
    rw [hfile, hfile', htype, htype']
    rfl
  refine ⟨c, t, t', hload, hname, ht, ?_, ht', hsame, hinjective _ _ _ _ _ ht ht' (.inr hsame)⟩
  rw [hfile, htype, hnaming]
  rfl

end StructForge
