import StructForge.Proofs.Batch.Drafting
import StructForge.Proofs.Batch.FailingWrites

/-! # The template in use

A batch looks up one template. What it finds stays the same from candidate to candidate, unless one
of them is written over the file that takes the place of the standard form. When there is no such
file, one that is written later makes no difference: the standard form has been loaded by then. -/

namespace StructForge.Struct

open Files

def templatePath (directory : Path) : Path :=
  ⟨directory.anchor, directory.names ++ [standardTemplate]⟩

theorem Templates.ofDirectory_eq_some {e : Engine} {t : Tree} {directory : Path}
    {template : Override} :
    Templates.ofDirectory e t directory [standardTemplate] = .ok (some template) ↔
      template.engine = e ∧ t.readText (templatePath directory) = .ok template.source := by
  have hpath : (⟨directory.anchor, directory.names ++ [standardTemplate]⟩ : Path) =
      templatePath directory := rfl
  simp only [Templates.ofDirectory, hpath]
  constructor
  · intro h
    split at h
    · cases hread : t.readText (templatePath directory) with
      | error f =>
        rw [hread] at h
        cases h
      | ok s =>
        rw [hread] at h
        cases h
        exact ⟨rfl, rfl⟩
    · cases h
  · rintro ⟨rfl, h⟩
    obtain ⟨content, hread⟩ := Tree.exists_read_of_readText h
    obtain ⟨hnull, hreach⟩ := Tree.reach_of_read hread
    have hentry : t.entry? (templatePath directory) = .ok (some (.file content)) := by
      unfold Tree.entry?
      rw [hnull, if_neg Bool.false_ne_true, hreach]
    rw [hentry, h]
    rfl

end StructForge.Struct

namespace StructForge.Batch

open Files Schema Struct

def Bench.override? (b : Bench) (c : Config) : Except Fault (Option Override) :=
  b.templates c [standardTemplate]

/-- Whether some outcomes leave the template in use as it is. The standard form cannot be written
over. -/
def Bench.SparesTemplate (b : Bench) (c : Config) (outcomes : List Outcome) : Prop :=
  ∀ dir template, c.templatesDir = some dir → b.override? c = .ok (some template) →
    ∀ x ∈ outcomes, ¬x.IsWrittenAt b.tree.here ((templatePath dir).locate b.tree.here)

/-- Whether some outcomes leave the template in use as it is where failing writes can spoil files. -/
def Bench.KeepsTemplate (b : Bench) (spoils : Prop) (c : Config) (outcomes : List Outcome) : Prop :=
  ∀ dir template, c.templatesDir = some dir → b.override? c = .ok (some template) →
    ∀ x ∈ outcomes, ¬x.Changes b.sink.outputDir b.tree.here spoils
      ((templatePath dir).locate b.tree.here)

theorem Bench.keepsTemplate_false {b : Bench} {c : Config} {outcomes : List Outcome} :
    b.KeepsTemplate False c outcomes ↔ b.SparesTemplate c outcomes := by
  simp [KeepsTemplate, SparesTemplate, Outcome.Changes]

section Outcomes

variable {spoils : Prop} {c : Config} {b b' : Bench} {outcome : Outcome} {outcomes : List Outcome}

theorem Bench.KeepsTemplate.tail (h : b.KeepsTemplate spoils c (outcome :: outcomes))
    (hhere : b'.tree.here = b.tree.here) (hdir : b'.sink.outputDir = b.sink.outputDir)
    (hover : b'.override? c = b.override? c) : b'.KeepsTemplate spoils c outcomes := by
  intro dir text hconfig hover' x hx
  rw [hhere, hdir]
  rw [hover] at hover'
  exact h dir text hconfig hover' x (List.mem_cons_of_mem _ hx)

theorem Bench.KeepsTemplate.head (h : b.KeepsTemplate spoils c (outcome :: outcomes)) :
    b.KeepsTemplate spoils c [outcome] := by
  intro dir text hdir hover x hx
  obtain rfl := List.mem_singleton.mp hx
  exact h dir text hdir hover _ List.mem_cons_self

end Outcomes

section Drafts

variable {templates : Templates} {s : Source} {t : Target} {text : String} {f : Fault}

theorem loadsStandard_of_ne (h : templates [standardTemplate] ≠ .ok none) :
    loadsStandard templates t s.extract = false := by
  unfold loadsStandard
  split
  · rename_i hnone
    exact absurd hnone h
  · rfl

theorem loadsStandard_of_draft (h : templates [standardTemplate] = .ok none)
    (hdraft : draft templates t s.extract = .ok (.ready text)) :
    loadsStandard templates t s.extract = true := by
  obtain ⟨hne, m, hbuild, -⟩ := exists_build_of_emit (draft_eq_ready.mp hdraft)
  unfold loadsStandard
  rw [hbuild, h]
  exact congrArg (!·) hne

theorem draft_ne_ready (h : templates [standardTemplate] = .error f) :
    draft templates t s.extract ≠ .ok (.ready text) := by
  intro hdraft
  obtain ⟨-, m, -, htext⟩ := exists_build_of_emit (draft_eq_ready.mp hdraft)
  have hnames : templateNames? standardTemplate = some [standardTemplate] := by decide
  unfold StructModel.emitText at htext
  rw [hnames] at htext
  simp only [h] at htext
  cases htext

end Drafts

section Step

variable {k : Outlet} {spoils : Prop} {c : Config} {o : Options} {ready ready' : Bool} {s : Source}
  {b b' : Bench} {outcome : Outcome} {name text : String} {answer : Except Fault Path}

theorem Treated.tree_eq (h : Treated k c o ready s b ready' outcome b')
    (htext : outcome.text? = none) : b'.tree = b.tree := by
  cases h with
  | unnamed => rfl
  | unrendered => rfl
  | skipped => rfl
  | previewed => rfl
  | unwritten => cases htext
  | written => cases htext

theorem Treated.readText {p : Path} (hk : k.IsOnTree spoils)
    (h : Treated k c o ready s b ready' outcome b') (hread : b.tree.readText p = .ok text)
    (hnot : ¬outcome.Changes b.sink.outputDir b.tree.here spoils (p.locate b.tree.here)) :
    b'.tree.readText p = .ok text := by
  obtain ⟨hchanges, -⟩ := h.changes hk
  refine Tree.readText_of_extends hread hchanges.extends ?_
  obtain ⟨content, hcontent⟩ := Tree.exists_read_of_readText hread
  rcases hchanges.find? (p.locate b.tree.here) with heq | ⟨hwritten, -⟩ | ⟨-, hnone, -⟩
  · exact heq
  · exact absurd hwritten hnot
  · rw [Tree.find?_of_read hcontent] at hnone
    cases hnone

theorem Bench.templates_congr (htree : b'.tree = b.tree)
    (hloaded : b'.standardLoaded = b.standardLoaded) : b'.templates c = b.templates c := by
  unfold Bench.templates
  rw [htree, hloaded]

theorem Bench.override?_of_standardLoaded (h : b.standardLoaded = true) :
    b.override? c = .ok none := by
  unfold Bench.override? Bench.templates
  rw [h]
  rfl

theorem Bench.override?_eq_some {template : Override} : b.override? c = .ok (some template) ↔
    b.standardLoaded = false ∧ template.engine = c.engine ∧
      ∃ dir, c.templatesDir = some dir ∧
        b.tree.readText (templatePath dir) = .ok template.source := by
  cases hloaded : b.standardLoaded with
  | true => simp [override?_of_standardLoaded hloaded]
  | false =>
    unfold override? templates
    rw [hloaded]
    cases hdir : c.templatesDir with
    | none => simp [Templates.ofDirectory?, Templates.standard]
    | some dir => simp [Templates.ofDirectory?, Templates.ofDirectory_eq_some]

theorem standardLoaded_of_ensureDirectory {dir : Except Fault Path}
    (h : Work.ensureDirectory b = (dir, b')) : b'.standardLoaded = b.standardLoaded := by
  rw [Work.ensureDirectory_run] at h
  split at h <;> cases h <;> rfl

theorem standardLoaded_of_write (hk : k.IsOnTree spoils) (h : k.write name text b = (answer, b')) :
    b'.standardLoaded = b.standardLoaded := by
  cases answer with
  | error f =>
    rcases hk.failed h with rfl | ⟨-, place, left, -, rfl⟩
    · rfl
    · rfl
  | ok path =>
    have hwrite := hk.written h
    rw [Work.write_run] at hwrite
    split at hwrite
    · cases hwrite
    · split at hwrite <;> cases hwrite
      rfl

theorem standardLoaded_of_readies {b₁ : Bench} (hk : k.IsOnTree spoils)
    (h : k.Readies ready b b₁) : b₁.standardLoaded = b.standardLoaded := by
  cases h with
  | known => rfl
  | made _ hmade =>
    rw [hk.ensureDirectory] at hmade
    exact standardLoaded_of_ensureDirectory hmade

theorem standardLoaded_of_saves (hk : k.IsOnTree spoils)
    (h : k.Saves ready name text b ready' answer b') : b'.standardLoaded = b.standardLoaded := by
  cases h with
  | noDirectory _ hmade =>
    rw [hk.ensureDirectory] at hmade
    exact standardLoaded_of_ensureDirectory hmade
  | unwritten hready hwrite =>
    exact (standardLoaded_of_write hk hwrite).trans (standardLoaded_of_readies hk hready)
  | written hready hwrite =>
    exact (standardLoaded_of_write hk hwrite).trans (standardLoaded_of_readies hk hready)

theorem Treated.standardLoaded (hk : k.IsOnTree spoils)
    (h : Treated k c o ready s b ready' outcome b') :
    ((∃ f, c.naming.target s = .error f) ∧ b'.standardLoaded = b.standardLoaded) ∨
      ∃ t, c.naming.target s = .ok t ∧ b'.standardLoaded = (b.drafted c s t).standardLoaded := by
  cases h with
  | unnamed hname => exact .inl ⟨⟨_, hname⟩, rfl⟩
  | unrendered hname => exact .inr ⟨_, hname, rfl⟩
  | skipped hname => exact .inr ⟨_, hname, rfl⟩
  | previewed hname => exact .inr ⟨_, hname, rfl⟩
  | unwritten hname _ _ hsave =>
    have hloaded := standardLoaded_of_saves hk hsave
    exact .inr ⟨_, hname, hloaded⟩
  | written hname _ _ hsave =>
    have hloaded := standardLoaded_of_saves hk hsave
    exact .inr ⟨_, hname, hloaded⟩

theorem Treated.exists_draft (h : Treated k c o ready s b ready' outcome b')
    (htext : outcome.text? = some text) :
    ∃ t, c.naming.target s = .ok t ∧
      draft (b.templates c) t s.extract = .ok (.ready text) := by
  cases h with
  | unnamed => cases htext
  | unrendered => cases htext
  | skipped => cases htext
  | previewed hname hdraft =>
    cases htext
    exact ⟨_, hname, hdraft⟩
  | unwritten hname hdraft =>
    cases htext
    exact ⟨_, hname, hdraft⟩
  | written hname hdraft =>
    cases htext
    exact ⟨_, hname, hdraft⟩

theorem Treated.standardLoaded_of_ne (hk : k.IsOnTree spoils)
    (h : Treated k c o ready s b ready' outcome b') (hne : b.override? c ≠ .ok none) :
    b'.standardLoaded = b.standardLoaded := by
  rcases h.standardLoaded hk with ⟨-, hloaded⟩ | ⟨t, -, hloaded⟩
  · exact hloaded
  · rw [hloaded, Bench.drafted, loadsStandard_of_ne hne, Bool.or_false]

theorem Treated.standardLoaded_mono (hk : k.IsOnTree spoils)
    (h : Treated k c o ready s b ready' outcome b') (hloaded : b.standardLoaded = true) :
    b'.standardLoaded = true := by
  rcases h.standardLoaded hk with ⟨-, heq⟩ | ⟨t, -, heq⟩
  · rw [heq, hloaded]
  · rw [heq, Bench.drafted, hloaded, Bool.true_or]

theorem Treated.standardLoaded_of_text (hk : k.IsOnTree spoils)
    (h : Treated k c o ready s b ready' outcome b') (hover : b.override? c = .ok none)
    (htext : outcome.text? = some text) : b'.standardLoaded = true := by
  obtain ⟨t, hname, hdraft⟩ := h.exists_draft htext
  rcases h.standardLoaded hk with ⟨⟨f, hunnamed⟩, -⟩ | ⟨t', hname', hloaded⟩
  · rw [hname] at hunnamed
    cases hunnamed
  · rw [hname] at hname'
    cases hname'
    rw [hloaded, Bench.drafted, loadsStandard_of_draft hover hdraft, Bool.or_true]

/-- What a batch finds in the place of the standard form stays the same while the template in use is
not written over. -/
theorem override?_of_handle (hk : k.IsOnTree spoils)
    (h : Work.handle k c o ready s b = (.ok (ready', outcome), b'))
    (hkeeps : b.KeepsTemplate spoils c [outcome]) : b'.override? c = b.override? c := by
  have htreated := Work.treated_of_handle h
  rcases hover : b.override? c with f | _ | template
  · have htext : outcome.text? = none := by
      rw [Option.eq_none_iff_forall_ne_some]
      intro text htext
      obtain ⟨t, -, hdraft⟩ := htreated.exists_draft htext
      exact draft_ne_ready hover hdraft
    have hne : b.override? c ≠ .ok none := by simp [hover]
    rw [← hover]
    exact congrFun (Bench.templates_congr (htreated.tree_eq htext)
      (htreated.standardLoaded_of_ne hk hne)) _
  · -- either the standard form is loaded now, or the tree was not touched
    cases hloaded : b'.standardLoaded with
    | true => exact Bench.override?_of_standardLoaded hloaded
    | false =>
      have hbefore : b.standardLoaded = false := by
        rw [← Bool.not_eq_true]
        intro hbefore
        rw [htreated.standardLoaded_mono hk hbefore] at hloaded
        cases hloaded
      have htext : outcome.text? = none := by
        rw [Option.eq_none_iff_forall_ne_some]
        intro text htext
        rw [htreated.standardLoaded_of_text hk hover htext] at hloaded
        cases hloaded
      rw [← hover]
      exact congrFun (Bench.templates_congr (htreated.tree_eq htext)
        (hloaded.trans hbefore.symm)) _
  · obtain ⟨hloaded, hengine, dir, hdir, hread⟩ := Bench.override?_eq_some.mp hover
    have hne : b.override? c ≠ .ok none := by simp [hover]
    have hnot := hkeeps dir template hdir hover outcome List.mem_cons_self
    exact Bench.override?_eq_some.mpr ⟨(htreated.standardLoaded_of_ne hk hne).trans hloaded, hengine,
      dir, hdir, htreated.readText hk hread hnot⟩

end Step

end StructForge.Batch
