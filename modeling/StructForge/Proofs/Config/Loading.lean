import StructForge.Config
import StructForge.Proofs.Files.Writing

/-! # How a configuration is loaded

A configuration that is loaded is what its document says: its prefix is none or an identifier, its
drop policy a known one, and its directories lie where the document puts them, seen from the root.
A file is refused as a configuration unless it cannot be read, holds a value that cannot be formed,
or asks for the text of a number that has too many digits. -/

namespace StructForge

open Files Schema Yaml

/-! ## Failures that are no refusals -/

def Strays {α : Type} (x : Except Fault α) : Prop :=
  ∃ f, x = .error f ∧ f.kind ≠ .configuration

/-- A step that strays on a condition, and else goes well. -/
def StraysOn {α : Type} (P : Prop) (x : Except Fault α) : Prop :=
  Strays x ∧ P ∨ (∃ a, x = .ok a) ∧ ¬P

section Strays

variable {α β : Type} {P Q : Prop} {x : Except Fault α} {g : α → Except Fault β} {f : Fault} {a : α}

theorem not_strays_ok : ¬Strays (.ok a) := by
  rintro ⟨f, h, -⟩
  cases h

theorem strays_error : Strays (.error f : Except Fault α) ↔ f.kind ≠ .configuration := by
  constructor
  · rintro ⟨f', h, hkind⟩
    cases h
    exact hkind
  · intro hkind
    exact ⟨f, rfl, hkind⟩

theorem not_strays_refused (refusal : ConfigFault) :
    ¬Strays (.error refusal.toFault : Except Fault α) := by
  rw [strays_error]
  exact fun h => h rfl

/-- A chain strays in its first step or in what follows. -/
theorem strays_bind : Strays (x >>= g) ↔ Strays x ∨ ∃ a, x = .ok a ∧ Strays (g a) := by
  cases x with
  | error f =>
    change Strays (.error f : Except Fault β) ↔ _
    rw [strays_error, strays_error, or_iff_left]
    rintro ⟨_, ⟨⟩, _⟩
  | ok a =>
    constructor
    · exact fun h => .inr ⟨a, rfl, h⟩
    · rintro (h | ⟨_, ⟨⟩, h⟩)
      · exact absurd h not_strays_ok
      · exact h

theorem straysOn_ok : StraysOn False (.ok a) := .inr ⟨⟨a, rfl⟩, id⟩

/-- After a step that strays on a condition, a chain strays on that condition or in what follows. -/
theorem StraysOn.strays_bind_iff (hx : StraysOn P x)
    (hg : ∀ a, x = .ok a → (Strays (g a) ↔ Q)) : Strays (x >>= g) ↔ P ∨ Q := by
  rcases hx with ⟨h, hP⟩ | ⟨⟨a, ha⟩, hP⟩
  · exact iff_of_true (strays_bind.mpr (.inl h)) (.inl hP)
  · rw [or_iff_right hP, ← hg a ha, ha]
    exact Iff.rfl

theorem StraysOn.bind (hx : StraysOn P x) (hg : ∀ a, StraysOn Q (g a)) :
    StraysOn (P ∨ Q) (x >>= g) := by
  rcases hx with ⟨h, hP⟩ | ⟨⟨a, rfl⟩, hP⟩
  · exact .inl ⟨strays_bind.mpr (.inl h), .inl hP⟩
  · rw [or_iff_right hP]
    exact hg a

theorem straysOn_mapM {C : α → Prop} {l : List α} (hg : ∀ a, StraysOn (C a) (g a)) :
    StraysOn (∃ a ∈ l, C a) (l.mapM g) := by
  induction l with
  | nil => exact .inr ⟨⟨[], rfl⟩, by simp⟩
  | cons a rest ih =>
    rw [List.mapM_cons, List.exists_mem_cons_iff]
    refine (hg a).bind fun b => ?_
    rw [← or_false (∃ a ∈ rest, C a)]
    exact ih.bind fun bs => straysOn_ok

end Strays

/-! ## Texts of data -/

namespace Yaml.Data

/-- Whether a datum is a whole number of too many digits to be written out. -/
def IsOverlong : Data → Prop
  | .int i => Nat.pow 10 Number.maxDigits ≤ i.natAbs
  | _ => False

def OverlongAt (d : Data) (key : String) : Prop := ((d.find? key).getD .null).IsOverlong

def items : Data → List Data
  | .list items => items
  | _ => []

theorem straysOn_asText? (d : Data) : StraysOn d.IsOverlong d.asText? := by
  cases d with
  | int i =>
    change StraysOn (Nat.pow 10 Number.maxDigits ≤ i.natAbs) ((Number.wholeText i).map some)
    by_cases hlong : Nat.pow 10 Number.maxDigits ≤ i.natAbs
    · obtain ⟨f, hf, hkind⟩ := Number.wholeText_of_long hlong
      rw [hf]
      refine .inl ⟨⟨f, rfl, ?_⟩, hlong⟩
      rw [hkind]
      decide
    · rw [Number.wholeText_of_short hlong]
      exact .inr ⟨⟨_, rfl⟩, hlong⟩
  | _ => exact straysOn_ok

theorem straysOn_textAt? (d : Data) (key : String) : StraysOn (d.OverlongAt key) (d.textAt? key) :=
  straysOn_asText? _

theorem straysOn_asTexts (d : Data) : StraysOn (∃ item ∈ d.items, item.IsOverlong) d.asTexts := by
  cases d with
  | list l =>
    rw [← or_false (∃ item ∈ _, _)]
    exact (straysOn_mapM straysOn_asText?).bind fun _ => straysOn_ok
  | _ => exact .inr ⟨⟨_, rfl⟩, by rintro ⟨_, ⟨⟩, _⟩⟩

end Yaml.Data

/-! ## What a document asks for -/

theorem DropPolicy.name_mem (policy : DropPolicy) : policy.name ∈ ["warn", "silent"] := by
  cases policy <;> decide

namespace Config

def part (d : Data) (key : String) : Data := (d.find? key).getD .null

def PrefixFits (d : Data) : Prop :=
  ∃ naming, namingOf d = .ok naming ∧
    (naming.typePrefix = "" ∨ Text.isIdentifier naming.typePrefix = true)

def PolicyKnown (d : Data) : Prop :=
  ∃ text policy, d.textAt? "drop_policy" = .ok text ∧
    DropPolicy.ofName? (Text.lower ((filled? text).getD DropPolicy.warn.name)) = some policy

/-- Whether a document asks for the text of a number that has too many digits. What stands after a
reason to refuse the document is not asked for. -/
inductive IsUnwritable (d : Data) : Prop
  | outputDir (h : d.OverlongAt "output_dir")
  | typePrefix (h : (part d "naming").OverlongAt "type_prefix")
  | fileSuffix (h : (part d "naming").OverlongAt "file_suffix")
  | modules (hfits : PrefixFits d) {item : Data}
      (hitem : item ∈ (part (part d "discovery") "modules").items) (h : item.IsOverlong)
  | dropPolicy (hfits : PrefixFits d) (h : d.OverlongAt "drop_policy")
  | templatesDir (hfits : PrefixFits d) (hpolicy : PolicyKnown d)
      (h : d.OverlongAt "templates_dir")

/-- Whether a configuration is a proper one, and says what a document says. -/
structure IsProper (c : Config) (d : Data) : Prop where
  outputDir : ∃ text, d.textAt? "output_dir" = .ok text ∧
    c.outputDir = c.root.child ((filled? text).getD defaultOutput)
  naming : namingOf d = .ok c.naming
  typePrefix : c.naming.typePrefix = "" ∨ Text.isIdentifier c.naming.typePrefix = true
  modules : (part (part d "discovery") "modules").asTexts = .ok c.modules
  dropPolicy : c.dropPolicy.name ∈ ["warn", "silent"]
  templatesDir : ∃ text, d.textAt? "templates_dir" = .ok text ∧
    c.templatesDir = (filled? text).map c.root.child

variable {root : Path} {d : Data} {c : Config}

theorem straysOn_namingOf (d : Data) : StraysOn
    ((part d "naming").OverlongAt "type_prefix" ∨ (part d "naming").OverlongAt "file_suffix")
    (namingOf d) := by
  refine (Data.straysOn_textAt? _ _).bind fun _ => ?_
  rw [← or_false (Data.OverlongAt _ "file_suffix")]
  exact (Data.straysOn_textAt? _ _).bind fun _ => straysOn_ok

/-- The check of a prefix passes it or refuses the configuration. -/
theorem badPrefix_eq_false {naming : Naming} :
    (!naming.typePrefix.isEmpty && !Text.isIdentifier naming.typePrefix) = false ↔
      naming.typePrefix = "" ∨ Text.isIdentifier naming.typePrefix = true := by
  cases hid : Text.isIdentifier naming.typePrefix <;> simp

theorem strays_ofData_iff : Strays (ofData root d) ↔ d.isMap = true ∧
    (d.OverlongAt "output_dir" ∨
      ((part d "naming").OverlongAt "type_prefix" ∨ (part d "naming").OverlongAt "file_suffix") ∨
      PrefixFits d ∧
        ((∃ item ∈ (part (part d "discovery") "modules").items, item.IsOverlong) ∨
          d.OverlongAt "drop_policy" ∨ PolicyKnown d ∧ d.OverlongAt "templates_dir")) := by
  unfold ofData
  cases hmap : d.isMap with
  | false =>
    refine iff_of_false ?_ fun h => Bool.false_ne_true h.1
    exact not_strays_refused _
  | true =>
    refine Iff.trans ?_ (and_iff_right rfl).symm
    refine (Data.straysOn_textAt? _ _).strays_bind_iff fun output houtput => ?_
    refine (straysOn_namingOf d).strays_bind_iff fun naming hnaming => ?_
    have hfits : PrefixFits d ↔ naming.typePrefix = "" ∨
        Text.isIdentifier naming.typePrefix = true := by
      constructor
      · rintro ⟨naming', hnaming', h⟩
        rw [hnaming] at hnaming'
        cases hnaming'
        exact h
      · exact fun h => ⟨naming, hnaming, h⟩
    rw [hfits, ← badPrefix_eq_false]
    cases hbad : !naming.typePrefix.isEmpty && !Text.isIdentifier naming.typePrefix with
    | true =>
      refine iff_of_false ?_ fun h => absurd h.1.symm Bool.false_ne_true
      exact not_strays_refused (.badPrefix _)
    | false =>
      refine Iff.trans ?_ (and_iff_right rfl).symm
      refine (Data.straysOn_asTexts _).strays_bind_iff fun modules hmodules => ?_
      refine (Data.straysOn_textAt? _ _).strays_bind_iff fun text htext => ?_
      dsimp only
      split
      · rename_i hunknown
        refine iff_of_false (not_strays_refused (.badDropPolicy _)) ?_
        rintro ⟨⟨text', policy, htext', hpolicy⟩, -⟩
        rw [htext] at htext'
        cases htext'
        rw [hunknown] at hpolicy
        cases hpolicy
      · rename_i policy hpolicy
        refine Iff.trans ?_ (and_iff_right ⟨text, policy, htext, hpolicy⟩).symm
        rw [← or_false (Data.OverlongAt _ _)]
        exact (Data.straysOn_textAt? _ _).strays_bind_iff fun _ _ =>
          iff_of_false not_strays_ok id

/-- Of mappings, just those stray that ask for the text of a number with too many digits. -/
theorem strays_ofData : Strays (ofData root d) ↔ d.isMap = true ∧ IsUnwritable d := by
  rw [strays_ofData_iff]
  refine and_congr_right fun _ => ⟨?_, ?_⟩
  · rintro (h | (h | h) | ⟨hfits, ⟨item, hitem, h⟩ | h | ⟨hpolicy, h⟩⟩)
    · exact .outputDir h
    · exact .typePrefix h
    · exact .fileSuffix h
    · exact .modules hfits hitem h
    · exact .dropPolicy hfits h
    · exact .templatesDir hfits hpolicy h
  · rintro (h | h | h | ⟨hfits, hitem, h⟩ | ⟨hfits, h⟩ | ⟨hfits, hpolicy, h⟩)
    · exact .inl h
    · exact .inr (.inl (.inl h))
    · exact .inr (.inl (.inr h))
    · exact .inr (.inr ⟨hfits, .inl ⟨_, hitem, h⟩⟩)
    · exact .inr (.inr ⟨hfits, .inr (.inl h)⟩)
    · exact .inr (.inr ⟨hfits, .inr (.inr ⟨hpolicy, h⟩)⟩)

/-- A configuration that is not refused says what its document says. -/
theorem isProper_of_ofData (h : ofData root d = .ok c) : c.root = root ∧ c.IsProper d := by
  unfold ofData at h
  cases hmap : d.isMap with
  | false =>
    rw [hmap] at h
    cases h
  | true =>
    rw [hmap] at h
    obtain ⟨output, houtput, h⟩ := bind_eq_ok.mp h
    obtain ⟨naming, hnaming, h⟩ := bind_eq_ok.mp h
    cases hbad : !naming.typePrefix.isEmpty && !Text.isIdentifier naming.typePrefix with
    | true =>
      dsimp only at h
      rw [hbad] at h
      cases h
    | false =>
      dsimp only at h
      rw [hbad] at h
      obtain ⟨modules, hmodules, h⟩ := bind_eq_ok.mp h
      obtain ⟨text, htext, h⟩ := bind_eq_ok.mp h
      split at h
      · cases h
      · obtain ⟨templates, htemplates, h⟩ := bind_eq_ok.mp h
        cases h
        exact ⟨rfl, {
          outputDir := ⟨output, houtput, rfl⟩
          naming := hnaming
          typePrefix := badPrefix_eq_false.mp hbad
          modules := hmodules
          dropPolicy := DropPolicy.name_mem _
          templatesDir := ⟨templates, htemplates, rfl⟩ }⟩

/-! ## Documents -/

/-- The document that a text spells. A text that says nothing spells an empty mapping, and so does
one whose value counts as absent. -/
def documentOf (reader : DocumentReader) (text : String) : Except Fault Data :=
  if (Text.trim text).isEmpty then .ok (.map [])
  else match reader text with
    | .error (.malformed reason) => .error (ConfigFault.malformed reason).toFault
    | .error (.value flaw message) => .error ⟨flaw.kind, message⟩
    | .ok d => .ok (if d.isBlank then .map [] else d)

/-- The document in a configuration file, an empty mapping where there is no file. -/
def document (reader : DocumentReader) (t : Tree) (file : Path) : Except Fault Data := do
  if ← t.has file then documentOf reader (← t.readText file)
  else return .map []

/-- Why nothing can be read from the configuration file at a path: its name is too long, it is a
directory, its bytes spell no text, or its text has a value that cannot be formed. -/
inductive IsUnreadable (reader : DocumentReader) (t : Tree) (file : Path) : Prop
  | name {f : Fault} (h : t.has file = .error f)
  | directory (hnull : file.holdsNull = false) {place : Location}
      (h : t.reach file = .ok (.taken place .directory))
  | bytes {content : ByteArray} (h : t.read file = .ok content) {f : Text.Utf8.Fault}
      (hcontent : Text.Utf8.decode content = .error f)
  | value {text : String} (htext : t.readText file = .ok text)
      (hblank : (Text.trim text).isEmpty = false) {flaw : ValueFlaw} {message : String}
      (h : reader text = .error (.value flaw message))

variable {reader : DocumentReader}

theorem ofText_eq (root : Path) (text : String) :
    ofText root text reader = documentOf reader text >>= ofData root := by
  unfold ofText documentOf
  split
  · rfl
  · rcases reader text with (reason | ⟨flaw, message⟩) | d <;> rfl

theorem load_eq (t : Tree) (p : Path) : load t p reader =
    fileFor t p >>= fun file => t.resolve file.parent >>= fun root =>
      document reader t file >>= ofData root := by
  unfold load document
  congr 1
  funext file
  congr 1
  funext root
  cases t.has file with
  | error f => rfl
  | ok found =>
    cases found with
    | false => rfl
    | true =>
      change (t.readText file >>= fun text => ofText root text reader) =
        (t.readText file >>= documentOf reader) >>= ofData root
      rw [bind_assoc]
      congr 1
      funext text
      exact ofText_eq root text

/-! ## Reading -/

section Reading

variable {reader : DocumentReader} {t : Tree} {p file : Path} {f : Fault}

def NeverRefuses {α : Type} (x : Except Fault α) : Prop := ∀ f, x = .error f → f.kind ≠ .configuration

theorem NeverRefuses.bind {α β : Type} {x : Except Fault α} {g : α → Except Fault β}
    (hx : NeverRefuses x) (hg : ∀ a, NeverRefuses (g a)) : NeverRefuses (x >>= g) := by
  intro f h
  rcases bind_eq_error.mp h with h | ⟨a, -, h⟩
  · exact hx f h
  · exact hg a f h

theorem entry?_neverRefuses : NeverRefuses (t.entry? p) := by
  intro f h
  unfold Tree.entry? at h
  split at h
  · cases h
  · split at h
    · cases h
    · cases h
      exact FaultKind.noConfusion
    · cases h

theorem pure_neverRefuses {α : Type} (a : α) : NeverRefuses (.ok a) := by
  rintro f ⟨⟩

theorem has_neverRefuses : NeverRefuses (t.has p) :=
  entry?_neverRefuses.bind fun _ => pure_neverRefuses _

theorem isDirectory_neverRefuses : NeverRefuses (t.isDirectory p) :=
  entry?_neverRefuses.bind fun _ => pure_neverRefuses _

theorem resolve_neverRefuses : NeverRefuses (t.resolve p) := by
  intro f h
  unfold Tree.resolve at h
  split at h
  · cases h
    exact FaultKind.noConfusion
  · cases h

theorem read_neverRefuses : NeverRefuses (t.read p) := by
  intro f h
  unfold Tree.read at h
  split at h
  · cases h
    exact FaultKind.noConfusion
  · split at h <;> cases h <;> exact FaultKind.noConfusion

theorem readText_neverRefuses : NeverRefuses (t.readText p) := by
  refine read_neverRefuses.bind fun content => ?_
  split
  · exact pure_neverRefuses _
  · intro f h
    cases h
    exact FaultKind.noConfusion

theorem expand_neverRefuses {homes : List (String × Path)} : NeverRefuses (p.expand homes) := by
  intro f h
  unfold Path.expand at h
  split at h
  · split at h
    · split at h
      · cases h
        exact FaultKind.noConfusion
      · split at h
        · cases h
        · cases h
          exact FaultKind.noConfusion
    · cases h
  · cases h

theorem fileFor_neverRefuses : NeverRefuses (fileFor t p) := by
  refine expand_neverRefuses.bind fun p => isDirectory_neverRefuses.bind fun found => ?_
  split
  · exact resolve_neverRefuses
  · split
    · exact resolve_neverRefuses
    · exact resolve_neverRefuses

theorem has_of_reach (hnull : file.holdsNull = false) {place : Location} {e : Entry}
    (h : t.reach file = .ok (.taken place e)) : t.has file = .ok true := by
  unfold Tree.has Tree.entry?
  rw [hnull, if_neg Bool.false_ne_true, h]
  rfl

theorem reach_of_has (h : t.has file = .ok true) :
    file.holdsNull = false ∧ ∃ place e, t.reach file = .ok (.taken place e) := by
  unfold Tree.has Tree.entry? at h
  cases hnull : file.holdsNull with
  | true =>
    rw [hnull] at h
    cases h
  | false =>
    rw [hnull, if_neg Bool.false_ne_true] at h
    split at h
    · rename_i place e hreach
      exact ⟨rfl, place, e, hreach⟩
    · cases h
    · cases h

/-- What is there is read unless it is a directory or its bytes spell no text. -/
theorem isUnreadable_of_readText (hhas : t.has file = .ok true) (h : t.readText file = .error f) :
    IsUnreadable reader t file := by
  obtain ⟨hnull, place, e, hreach⟩ := reach_of_has hhas
  cases e with
  | directory => exact .directory hnull hreach
  | file content =>
    have hread := Tree.read_of_reach hnull hreach
    unfold Tree.readText at h
    rw [hread] at h
    simp only [bind, Except.bind] at h
    split at h
    · cases h
    · rename_i hcontent
      exact .bytes hread hcontent

theorem readText_of_decode {content : ByteArray} (h : t.read file = .ok content)
    {f : Text.Utf8.Fault} (hcontent : Text.Utf8.decode content = .error f) :
    t.readText file = .error ⟨.badText, f.message⟩ := by
  refine bind_eq_error.mpr (.inr ⟨content, h, ?_⟩)
  rw [hcontent]
  rfl

theorem flaw_kind_ne (flaw : ValueFlaw) : flaw.kind ≠ .configuration := by
  cases flaw <;> exact FaultKind.noConfusion

theorem strays_documentOf {text : String} : Strays (documentOf reader text) ↔
    (Text.trim text).isEmpty = false ∧
      ∃ flaw message, reader text = .error (.value flaw message) := by
  unfold documentOf
  cases (Text.trim text).isEmpty with
  | true => exact iff_of_false not_strays_ok fun h => Bool.noConfusion h.1
  | false =>
    refine Iff.trans ?_ (and_iff_right rfl).symm
    rcases reader text with (reason | ⟨flaw, message⟩) | d
    · refine iff_of_false (not_strays_refused (.malformed _)) ?_
      rintro ⟨_, _, ⟨⟩⟩
    · exact iff_of_true ⟨_, rfl, flaw_kind_ne flaw⟩ ⟨flaw, message, rfl⟩
    · refine iff_of_false not_strays_ok ?_
      rintro ⟨_, _, ⟨⟩⟩

theorem strays_document : Strays (document reader t file) ↔ IsUnreadable reader t file := by
  unfold document
  rw [strays_bind]
  constructor
  · rintro (⟨f, h, -⟩ | ⟨found, hhas, h⟩)
    · exact .name h
    · cases found with
      | false => exact absurd h not_strays_ok
      | true =>
        rcases strays_bind.mp h with ⟨f, h, -⟩ | ⟨text, htext, h⟩
        · exact isUnreadable_of_readText hhas h
        · obtain ⟨hblank, flaw, message, h⟩ := strays_documentOf.mp h
          exact .value htext hblank h
  · -- whatever is there but cannot be read is there
    have hthere (hhas : t.has file = .ok true) (h : Strays (t.readText file >>= documentOf reader)) :
        Strays (t.has file) ∨ ∃ found, t.has file = .ok found ∧
          Strays (if found then t.readText file >>= documentOf reader else pure (.map [])) :=
      .inr ⟨true, hhas, h⟩
    rintro (h | ⟨hnull, h⟩ | ⟨h, hcontent⟩ | ⟨htext, hblank, h⟩)
    · exact .inl ⟨_, h, has_neverRefuses _ h⟩
    · refine hthere (has_of_reach hnull h) (strays_bind.mpr (.inl ?_))
      have hread : t.readText file = .error (osFault .isDirectory file) := by
        unfold Tree.readText Tree.read
        rw [hnull, if_neg Bool.false_ne_true, h]
        rfl
      exact ⟨_, hread, readText_neverRefuses _ hread⟩
    · obtain ⟨hnull, hreach⟩ := Tree.reach_of_read h
      refine hthere (has_of_reach hnull hreach) (strays_bind.mpr (.inl ?_))
      have hread := readText_of_decode h hcontent
      exact ⟨_, hread, readText_neverRefuses _ hread⟩
    · obtain ⟨content, hread⟩ := Tree.exists_read_of_readText htext
      obtain ⟨hnull, hreach⟩ := Tree.reach_of_read hread
      refine hthere (has_of_reach hnull hreach) (strays_bind.mpr (.inr ⟨_, htext, ?_⟩))
      exact strays_documentOf.mpr ⟨hblank, _, _, h⟩

/-- Why the configuration of the project at a path is neither given nor refused: the path leads to no
root, its file is unreadable, or asks for the text of a number with too many digits. -/
inductive IsMisread (reader : DocumentReader) (t : Tree) (p : Path) : Prop
  | path {f : Fault} (h : (fileFor t p >>= fun file => t.resolve file.parent) = .error f)
  | file {file : Path} (hfile : fileFor t p = .ok file) (h : IsUnreadable reader t file)
  | text {file : Path} (hfile : fileFor t p = .ok file) {d : Data}
      (hd : document reader t file = .ok d)
      (hmap : d.isMap = true) (h : IsUnwritable d)

theorem strays_load : Strays (load t p reader) ↔ IsMisread reader t p := by
  rw [load_eq, strays_bind]
  constructor
  · rintro (⟨f, h, -⟩ | ⟨file, hfile, h⟩)
    · exact .path (bind_eq_error.mpr (.inl h))
    · rcases strays_bind.mp h with ⟨f, h, -⟩ | ⟨root, -, h⟩
      · exact .path (bind_eq_error.mpr (.inr ⟨file, hfile, h⟩))
      · rcases strays_bind.mp h with h | ⟨d, hd, h⟩
        · exact .file hfile (strays_document.mp h)
        · obtain ⟨hmap, h⟩ := strays_ofData.mp h
          exact .text hfile hd hmap h
  · -- what keeps the document from being used does so for every root
    have hfrom {file : Path} (hfile : fileFor t p = .ok file)
        (h : ∀ root, Strays (document reader t file >>= ofData root)) :
        Strays (fileFor t p) ∨ ∃ file, fileFor t p = .ok file ∧
          Strays (t.resolve file.parent >>= fun root =>
            document reader t file >>= ofData root) := by
      refine .inr ⟨file, hfile, strays_bind.mpr ?_⟩
      cases hroot : t.resolve file.parent with
      | error f => exact .inl (strays_error.mpr (resolve_neverRefuses f hroot))
      | ok root => exact .inr ⟨root, rfl, h root⟩
    rintro (h | ⟨hfile, h⟩ | ⟨hfile, hd, hmap, h⟩)
    · rcases bind_eq_error.mp h with h | ⟨file, hfile, h⟩
      · exact .inl ⟨_, h, fileFor_neverRefuses _ h⟩
      · exact .inr ⟨file, hfile, strays_bind.mpr (.inl ⟨_, h, resolve_neverRefuses _ h⟩)⟩
    · exact hfrom hfile fun root => strays_bind.mpr (.inl (strays_document.mpr h))
    · exact hfrom hfile fun root =>
        strays_bind.mpr (.inr ⟨_, hd, strays_ofData.mpr ⟨hmap, h⟩⟩)

/-- A configuration that is loaded says what its file says, of the root at which the file was
found. -/
theorem exists_of_load {c : Config} (h : load t p reader = .ok c) :
    ∃ file d, fileFor t p = .ok file ∧ t.resolve file.parent = .ok c.root ∧
      document reader t file = .ok d ∧ c.IsProper d := by
  rw [load_eq] at h
  obtain ⟨file, hfile, h⟩ := bind_eq_ok.mp h
  obtain ⟨root, hroot, h⟩ := bind_eq_ok.mp h
  obtain ⟨d, hd, h⟩ := bind_eq_ok.mp h
  obtain ⟨rfl, hproper⟩ := isProper_of_ofData h
  exact ⟨file, d, hfile, hroot, hd, hproper⟩

/-- Only proper configurations are loaded, and loading fails in another way than by a refusal just
where the file is misread. -/
theorem load_isProper_and_strays_iff (reader : DocumentReader) (t : Tree) (p : Path) :
    (∀ c, load t p reader = .ok c → ∃ file d, fileFor t p = .ok file ∧
      t.resolve file.parent = .ok c.root ∧ document reader t file = .ok d ∧ c.IsProper d) ∧
      ((∃ f, load t p reader = .error f ∧ f.kind ≠ .configuration) ↔ IsMisread reader t p) :=
  ⟨fun _ h => exists_of_load h, strays_load⟩

end Reading

/-- A project whose configuration file holds a byte that begins no text. -/
def garbledTree : Tree :=
  { entries := [(["game"], .directory), (["game", configFileName], .file ⟨#[0xff]⟩)] }

/-- Not every project is loaded or refused as a configuration: one byte is enough to stray. -/
theorem not_all_load_or_refused : ¬∀ (t : Tree) (p : Path),
    (∃ c, load t p = .ok c) ∨ ∃ f, load t p = .error f ∧ f.kind = .configuration := by
  intro h
  have hkind : (match load garbledTree (.ofText "/game") with
      | .ok _ => none
      | .error f => some f.kind) = some .badText := by decide +kernel
  rcases h garbledTree (.ofText "/game") with ⟨c, hc⟩ | ⟨f, hf, hrefused⟩
  · rw [hc] at hkind
    cases hkind
  · rw [hf] at hkind
    rw [Option.some.inj hkind] at hrefused
    cases hrefused

end Config

end StructForge
