import StructForge.Proofs.Batch.FileContents
import StructForge.Proofs.Batch.Preview
import StructForge.Proofs.Files.Storing

/-! # Running a batch again

A run whose texts are all saved puts them into the tree in order. When the same candidates are run
again and find the same template, each of them ends as before, and its text goes where it went; so
the files stay as the first run left them. -/

namespace StructForge.Batch

open Files Schema Struct

def Outcome.put? (here : Location) : Outcome → Option (Location × Entry)
  | .written _ _ _ path text => some (path.locate here, .file text.toUTF8)
  | _ => none

def puts (here : Location) (outcomes : List Outcome) : List (Location × Entry) :=
  outcomes.filterMap (·.put? here)

section Step

variable {c : Config} {o : Options} {templates : Templates} {ready ready' : Bool} {s : Source}
  {t : Target} {d : Draft} {text : String} {tree tree' : Tree} {sink sink' : Sink}
  {outcome : Outcome} {b u : Bench}

theorem Handled.readOnly (h : Handled c o templates ready s tree sink ready' outcome tree' sink') :
    sink'.readOnly = sink.readOnly := by
  cases h <;> rfl

/-- A candidate without a text touches nothing. -/
theorem Handled.of_textless
    (h : Handled c o templates ready s tree sink ready' outcome tree' sink')
    (htext : outcome.text? = none) : ready' = ready ∧ sink' = sink ∧ puts tree.here [outcome] = [] := by
  cases h with
  | unnamed => exact ⟨rfl, rfl, rfl⟩
  | unrendered => exact ⟨rfl, rfl, rfl⟩
  | skipped => exact ⟨rfl, rfl, rfl⟩
  | previewed => cases htext
  | noDirectory => cases htext
  | refused => cases htext
  | unwritten => cases htext
  | written => cases htext

theorem Handled.of_status
    (h : Handled c o templates ready s tree sink ready' outcome tree' sink')
    (hwritten : outcome.status = .written) :
    ready' = true ∧ ∃ start, Prepared ready sink tree start ∧
      tree' = start.putAll (puts tree.here [outcome]) := by
  cases h with
  | unnamed => cases hwritten
  | unrendered => cases hwritten
  | skipped => cases hwritten
  | previewed => cases hwritten
  | noDirectory => cases hwritten
  | refused => cases hwritten
  | unwritten => cases hwritten
  | written _ _ _ hprep _ hwrite =>
    obtain ⟨-, place, hplace, rfl⟩ := Action.writeText_run_ok.mp hwrite
    obtain rfl := hplace.eq_locate
    rw [hprep.keeps.here]
    exact ⟨rfl, _, hprep, rfl⟩

end Step

section Run

variable {c : Config} {o : Options} {ready : Bool} {candidates : List Source} {tree tree' : Tree}
  {sink sink' : Sink} {outcome : Outcome} {outcomes : List Outcome}

theorem puts_cons (here : Location) (outcome : Outcome) (outcomes : List Outcome) :
    puts here (outcome :: outcomes) = puts here [outcome] ++ puts here outcomes :=
  List.filterMap_append (l := [outcome])

/-- A run whose texts are all saved puts them into a tree in order, into the one that it was given
if the output directory is known to be there. -/
theorem HandledAll.exists_putAll
    (h : HandledAll c o ready candidates tree sink outcomes tree' sink')
    (hsaved : AllSaved outcomes) :
    ∃ start, (ready = true → start = tree) ∧ tree' = start.putAll (puts tree.here outcomes) := by
  induction h with
  | nil => exact ⟨_, fun _ => rfl, rfl⟩
  | @cons _ _ _ _ _ tree _ _ _ _ _ outcome _ head _ ih =>
    obtain ⟨hfirst, hrest⟩ := List.forall_mem_cons.mp hsaved
    obtain ⟨later, hlater, hput⟩ := ih hrest
    rw [head.extends.here] at hput
    rw [puts_cons]
    cases htext : outcome.text? with
    | none =>
      obtain ⟨rfl, -, hnone⟩ := head.of_textless htext
      rw [hnone]
      exact ⟨later, fun hready => (hlater hready).trans (head.tree_eq htext), hput⟩
    | some text =>
      obtain ⟨hready', start, hprep, rfl⟩ := head.of_status (hfirst (by rw [htext]; rfl))
      refine ⟨start, fun hready => ?_, ?_⟩
      · cases hprep with
        | known => rfl
        | made hnot =>
          rw [hready] at hnot
          cases hnot
      · rw [hput, hlater hready', Tree.putAll_append]

theorem HandledAll.putAll_eq
    (h : HandledAll c o ready candidates tree sink outcomes tree' sink')
    (hsaved : AllSaved outcomes) : tree'.putAll (puts tree.here outcomes) = tree' := by
  obtain ⟨start, -, rfl⟩ := h.exists_putAll hsaved
  exact Tree.putAll_putAll _ _

end Run

/-! ## A second run -/

section Replay

variable {c : Config} {o : Options} {templates : Templates} {ready ready' : Bool} {s : Source}
  {t : Target} {d : Draft} {text : String} {candidates : List Source} {tree tree' : Tree}
  {sink sink' : Sink} {outcome : Outcome} {outcomes : List Outcome} {b b' u : Bench}
  {place : Location}

theorem Handled.covers (h : Handled c o templates ready s tree sink ready' outcome tree' sink') :
    tree.Covers tree' := by
  rcases h.effect with hkeeps | ⟨t, path, text, place, -, -, -, -, hstores⟩
  · exact hkeeps.covers
  · exact hstores.covers

theorem HandledAll.covers (h : HandledAll c o ready candidates tree sink outcomes tree' sink') :
    tree.Covers tree' := by
  induction h with
  | nil => exact .refl _
  | cons head _ ih => exact head.covers.trans ih

/-- Whatever a run is for, a candidate without a text ends as its draft says. -/
theorem handle_textless (known : Bool) (p : Path) (hname : c.naming.target s = .ok t)
    (hdraft : draft (u.templates c) t s.extract = .ok d) (htext : ∀ text, d ≠ .ready text) :
    ∃ u', Work.handle .files c o known s u = (.ok (known, d.shown s t p), u') := by
  unfold Work.handle
  rw [hname]
  simp only [Work.note_bind_run, get_bind_run, Bench.logged_templates, Bench.logged_logged,
    Work.keepStandard_bind_run, hdraft]
  cases d with
  | unrendered error => exact ⟨_, rfl⟩
  | empty => exact ⟨_, rfl⟩
  | ready text => exact absurd rfl (htext text)

/-- A text is saved at a bench where the output directory is there, the sink accepts its name, and a
file can be written at its path. -/
theorem save_ready (text : String) (known : Bool) (hsettled : u.IsSettled)
    (hread : u.sink.readOnly.contains t.fileName = false)
    (hnull : (u.sink.outputDir.child t.fileName).holdsNull = false)
    (hplace : u.tree.Writable (u.sink.outputDir.child t.fileName) place) :
    ∃ u', Work.save .files known t text u =
      (.ok (true, .ok (u.sink.outputDir.child t.fileName)), u') := by
  have hwrite : Action.writeText (u.sink.outputDir.child t.fileName) text u.tree =
      (.ok (), u.tree.put place (.file text.toUTF8)) :=
    Action.writeText_run_ok.mpr ⟨hnull, place, hplace, rfl⟩
  have hsaved : ∃ u', Outlet.files.write t.fileName text u =
      (.ok (u.sink.outputDir.child t.fileName), u') := by
    change ∃ u', Work.write t.fileName text u = _
    rw [Work.write_run, hread, if_neg Bool.false_ne_true, hwrite]
    exact ⟨_, rfl⟩
  obtain ⟨u', hsaved⟩ := hsaved
  rw [Work.save_of_isSettled Outlet.isOnTree_files hsettled]
  change ∃ u', (Work.guarded (Outlet.files.write t.fileName text) >>= fun answer =>
    (pure (true, answer) : Work (Bool × Except Fault Path))) u = _
  rw [bind_run, Work.guarded_run, hsaved]
  exact ⟨_, rfl⟩

theorem handle_ready (known : Bool) (hname : c.naming.target s = .ok t)
    (hdraft : draft (u.templates c) t s.extract = .ok (.ready text)) (hwet : o.dryRun = false)
    (hsettled : u.IsSettled) (hread : u.sink.readOnly.contains t.fileName = false)
    (hnull : (u.sink.outputDir.child t.fileName).holdsNull = false)
    (hplace : u.tree.Writable (u.sink.outputDir.child t.fileName) place) :
    ∃ u', Work.handle .files c o known s u = (.ok (true, .written s.name t s.extract.dropped
      (u.sink.outputDir.child t.fileName) text), u') := by
  unfold Work.handle
  rw [hname]
  simp only [Work.note_bind_run, get_bind_run, Bench.logged_templates, Bench.logged_logged,
    Work.keepStandard_bind_run, hdraft]
  obtain ⟨u', hsave⟩ :=
    save_ready (u := u.rendered c s t) text known hsettled hread hnull hplace
  change ∃ u', Work.finish .files o known s t s.extract.dropped text (u.rendered c s t) = _
  unfold Work.finish
  rw [hwet, if_neg Bool.false_ne_true, bind_run, hsave]
  exact ⟨_, rfl⟩

/-- An outcome without a text, or with one that is saved, is met again at a bench where the same
template is found and the tree has what the run left in its own. -/
theorem Handled.exists_handle
    (h : Handled c o templates ready s tree sink ready' outcome tree' sink')
    (hsaved : outcome.text?.isSome = true → outcome.status = .written)
    (htemplates : templates [standardTemplate] = u.templates c [standardTemplate])
    (hdir : u.sink.outputDir = sink.outputDir) (hread : u.sink.readOnly = sink.readOnly)
    (hcovers : tree'.Covers u.tree) (hsettled : outcome.status = .written → u.IsSettled) :
    ∃ u', Work.handle .files c o ready s u = (.ok (ready', outcome), u') := by
  cases h with
  | unnamed hname => exact handle_unnamed hname
  | unrendered hname hdraft =>
    rw [draft_congr htemplates] at hdraft
    exact handle_textless ready u.sink.outputDir hname hdraft nofun
  | skipped hname hdraft =>
    rw [draft_congr htemplates] at hdraft
    exact handle_textless ready u.sink.outputDir hname hdraft nofun
  | previewed => cases hsaved rfl
  | noDirectory => cases hsaved rfl
  | refused => cases hsaved rfl
  | unwritten => cases hsaved rfl
  | @written t text start _ hname hdraft hwet _ hnot hwrite =>
    rw [draft_congr htemplates] at hdraft
    obtain ⟨hnull, place, hplace, rfl⟩ := Action.writeText_run_ok.mp hwrite
    obtain ⟨hne, hnodir⟩ := hplace.find?_ne
    have hstores : start.Stores (start.put place (.file text.toUTF8)) place text.toUTF8 :=
      Tree.stores_put hne hnodir
    -- the path leads to the file that the run has left there
    obtain ⟨content, hfile⟩ := hcovers.file place _ hstores.self
    have hreach := hplace.reach_of_extends (hstores.extends.trans hcovers.extends) hfile
    rw [← hdir] at hnull hreach ⊢
    rw [← hread] at hnot
    exact handle_ready ready hname hdraft hwet (hsettled rfl) hnot hnull ⟨_, hreach, rfl⟩

theorem Handled.eq_putAll
    (h : Handled c o templates ready s tree sink ready' outcome tree' sink')
    (hsaved : outcome.text?.isSome = true → outcome.status = .written)
    (hsettled : outcome.status = .written → tree.isDirectory sink.outputDir = .ok true) :
    tree' = tree.putAll (puts tree.here [outcome]) := by
  cases htext : outcome.text? with
  | none =>
    rw [(h.of_textless htext).2.2]
    exact h.tree_eq htext
  | some text =>
    have hwritten := hsaved (by rw [htext]; rfl)
    obtain ⟨-, start, hprep, rfl⟩ := h.of_status hwritten
    cases hprep with
    | known => rfl
    | made _ hmade =>
      rw [Action.makeDirectories_of_isDirectory (hsettled hwritten)] at hmade
      cases hmade
      rfl

/-- A run is repeated at a bench where the same template is found and the tree has what the run left
in its own: every outcome is met again, and the same texts are put into the tree. -/
theorem exists_replay (h : Work.handleAll .files c o ready candidates b = (.ok outcomes, b'))
    (hsaved : AllSaved outcomes) (hkeeps : b.KeepsTemplate False c outcomes)
    (hover : u.override? c = b.override? c) (hdir : u.sink.outputDir = b.sink.outputDir)
    (hread : u.sink.readOnly = b.sink.readOnly) (hcovers : b'.tree.Covers u.tree)
    (hsettled : (∃ x ∈ outcomes, x.status = .written) → u.IsSettled) :
    ∃ u', Work.handleAll .files c o ready candidates u = (.ok outcomes, u') ∧
      u'.tree = u.tree.putAll (puts u.tree.here outcomes) := by
  induction candidates generalizing ready b u outcomes with
  | nil =>
    obtain ⟨rfl, rfl⟩ := pure_run_ok.mp h
    exact ⟨u, rfl, rfl⟩
  | cons s rest ih =>
    obtain ⟨ready', outcome, outcomes', b₁, hhandle, hrest, rfl⟩ := Work.handleAll_cons_run_ok.mp h
    obtain ⟨hfirst, hothers⟩ := List.forall_mem_cons.mp hsaved
    have hhandled := Work.handle_run_ok hhandle
    have hlater := (Work.handleAll_run_ok hrest).covers
    obtain ⟨u₁, hagain⟩ := hhandled.exists_handle hfirst hover.symm hdir hread
      (hlater.trans hcovers) fun hwritten => hsettled ⟨_, List.mem_cons_self, hwritten⟩
    have hrepeated := Work.handle_run_ok hagain
    have hput := hrepeated.eq_putAll hfirst fun hwritten =>
      hsettled ⟨_, List.mem_cons_self, hwritten⟩
    -- both go on with the template that they have found at this candidate
    have hhere : u.tree.here = b.tree.here := (hhandled.covers.trans (hlater.trans hcovers)).here
    have hfiles := Outlet.isOnTree_files
    have hover₁ : b₁.override? c = b.override? c :=
      override?_of_handle hfiles hhandle hkeeps.head
    have hkeeps' : u.KeepsTemplate False c [outcome] := by
      intro dir text hdir' hover' x hx
      rw [hhere, hdir]
      exact hkeeps.head dir text hdir' (hover ▸ hover') x hx
    have hover₂ : u₁.override? c = u.override? c := override?_of_handle hfiles hagain hkeeps'
    obtain ⟨u', hall, htree⟩ := ih hrest hothers
      (hkeeps.tail hhandled.extends.here hhandled.outputDir hover₁)
      (hover₂.trans (hover.trans hover₁.symm))
      (by rw [hrepeated.outputDir, hdir, hhandled.outputDir])
      (by rw [hrepeated.readOnly, hread, hhandled.readOnly])
      (hcovers.trans hrepeated.covers) (by
        rintro ⟨x, hx, hwritten⟩
        have hthere := hsettled ⟨x, List.mem_cons_of_mem _ hx, hwritten⟩
        unfold Bench.IsSettled
        rw [hrepeated.outputDir]
        exact Tree.isDirectory_of_extends hthere hrepeated.extends)
    refine ⟨u', Work.handleAll_cons_run_ok.mpr
      ⟨ready', outcome, outcomes', u₁, hagain, hall, rfl⟩, ?_⟩
    rw [htree, hrepeated.extends.here, hput, puts_cons _ outcome outcomes', Tree.putAll_append]

/-- What a run finds in the place of the standard form stays the same while the template in use is
not written over. -/
theorem override?_of_handleAll
    (h : Work.handleAll .files c o ready candidates b = (.ok outcomes, b'))
    (hkeeps : b.KeepsTemplate False c outcomes) : b'.override? c = b.override? c := by
  induction candidates generalizing ready b outcomes with
  | nil =>
    obtain ⟨-, rfl⟩ := pure_run_ok.mp h
    rfl
  | cons s rest ih =>
    obtain ⟨ready', outcome, outcomes', b₁, hhandle, hrest, rfl⟩ := Work.handleAll_cons_run_ok.mp h
    have hover := override?_of_handle Outlet.isOnTree_files hhandle hkeeps.head
    have hhandled := Work.handle_run_ok hhandle
    rw [ih hrest (hkeeps.tail hhandled.extends.here hhandled.outputDir hover), hover]

theorem HandledAll.isDirectory
    (h : HandledAll c o ready candidates tree sink outcomes tree' sink')
    (hready : ready = true → tree.isDirectory sink.outputDir = .ok true)
    (hwritten : ∃ x ∈ outcomes, x.status = .written) :
    tree'.isDirectory sink.outputDir = .ok true := by
  induction h with
  | nil => simp at hwritten
  | cons head tail ih =>
    have hready' := head.isDirectory hready
    rw [← head.outputDir]
    rw [List.exists_mem_cons_iff] at hwritten
    rcases hwritten with hfirst | hrest
    · exact Tree.isDirectory_of_extends (hready' (head.of_status hfirst).1) tail.extends
    · exact ih hready' hrest

end Replay

section Main

variable {c : Config} {o : Options} {raiseOnError : Bool} {candidates : List Source}
  {outcomes : List Outcome} {b b' b₁ u : Bench} {conclusion : Conclusion}

/-- Two benches that find the same files and the same template, and have sinks for the same
directory. -/
structure Bench.Repeats (b u : Bench) : Prop where
  tree : u.tree = b.tree
  standardLoaded : u.standardLoaded = b.standardLoaded
  outputDir : u.sink.outputDir = b.sink.outputDir
  readOnly : u.sink.readOnly = b.sink.readOnly

theorem generate_of_handleAll (raiseOnError : Bool)
    (h : Work.handleAll .files c o false candidates b = (.ok outcomes, b₁)) :
    ∃ b', Work.generate c o raiseOnError candidates b =
        (.ok ((Report.mk outcomes).conclude raiseOnError), b') ∧ b₁.Repeats b' := by
  unfold Work.generate Work.generateTo Work.runTo
  simp only [bind_assoc]
  rw [bind_run, h]
  cases hempty : (Report.mk outcomes).written.isEmpty with
  | true =>
    simp only [hempty]
    exact ⟨_, rfl, rfl, rfl, rfl, rfl⟩
  | false =>
    simp only [hempty]
    exact ⟨_, rfl, rfl, rfl, rfl, rfl⟩

theorem handleAll_of_generate
    (h : Work.generate c o raiseOnError candidates b = (.ok conclusion, b')) :
    ∃ b₁, Work.handleAll .files c o false candidates b =
        (.ok conclusion.report.outcomes, b₁) ∧ b₁.Repeats b' ∧
      conclusion = conclusion.report.conclude raiseOnError := by
  obtain ⟨report, hrun, rfl⟩ := generateTo_run_ok.mp h
  obtain ⟨b₁, hall⟩ := handleAll_of_runTo hrun
  obtain ⟨b₂, hgenerate, hrepeats⟩ := generate_of_handleAll raiseOnError hall
  rw [h] at hgenerate
  cases hgenerate
  rw [report.report_conclude]
  exact ⟨b₁, hall, hrepeats, rfl⟩

def Bench.renewed (b : Bench) : Bench :=
  { tree := b.tree, sink := { outputDir := b.sink.outputDir, readOnly := b.sink.readOnly } }

theorem HandledAll.sink_fixed {ready : Bool} {tree tree' : Tree} {sink sink' : Sink}
    (h : HandledAll c o ready candidates tree sink outcomes tree' sink') :
    sink'.outputDir = sink.outputDir ∧ sink'.readOnly = sink.readOnly := by
  induction h with
  | nil => exact ⟨rfl, rfl⟩
  | cons head _ ih => exact ⟨ih.1.trans head.outputDir, ih.2.trans head.readOnly⟩

theorem entry?_eq_file {t : Tree} {p : Path} {content : ByteArray} :
    t.entry? p = .ok (some (.file content)) ↔ t.read p = .ok content := by
  constructor
  · intro h
    unfold Tree.entry? at h
    cases hnull : p.holdsNull with
    | true =>
      rw [hnull] at h
      cases h
    | false =>
      rw [hnull, if_neg Bool.false_ne_true] at h
      split at h
      · rename_i hreach
        cases h
        exact Tree.read_of_reach hnull hreach
      · cases h
      · cases h
  · intro h
    obtain ⟨hnull, hreach⟩ := Tree.reach_of_read h
    unfold Tree.entry?
    rw [hnull, if_neg Bool.false_ne_true, hreach]

theorem ofDirectory_eq_none {e : Engine} {t : Tree} {directory : Path} :
    Templates.ofDirectory e t directory [standardTemplate] = .ok none ↔
      ∀ content, t.read (templatePath directory) ≠ .ok content := by
  unfold Templates.ofDirectory templatePath
  dsimp only
  simp only [ne_eq, ← entry?_eq_file]
  split
  · rename_i content hentry
    refine iff_of_false (fun h => ?_) fun h => h content hentry
    generalize t.readText _ = read at h
    cases read <;> cases h
  · rename_i hno
    exact iff_of_true rfl hno

/-- A run is repeated where it has left its files, if the same template is found there. -/
theorem generate_again (h : Work.generate c o raiseOnError candidates b = (.ok conclusion, b'))
    (hsaved : AllSaved conclusion.report.outcomes)
    (hspares : b.SparesTemplate c conclusion.report.outcomes) (htree : u.tree = b'.tree)
    (hdir : u.sink.outputDir = b'.sink.outputDir) (hread : u.sink.readOnly = b'.sink.readOnly)
    (hover : u.override? c = b.override? c) :
    ∃ u', Work.generate c o raiseOnError candidates u = (.ok conclusion, u') ∧
      u'.tree = b'.tree := by
  obtain ⟨b₁, hall, hrepeats, hconclusion⟩ := handleAll_of_generate h
  have hhandled := Work.handleAll_run_ok hall
  obtain ⟨hfixed, hfixed'⟩ := hhandled.sink_fixed
  have htree₁ : u.tree = b₁.tree := htree.trans hrepeats.tree
  have hdir₁ : u.sink.outputDir = b.sink.outputDir :=
    hdir.trans (hrepeats.outputDir.trans hfixed)
  have hread₁ : u.sink.readOnly = b.sink.readOnly :=
    hread.trans (hrepeats.readOnly.trans hfixed')
  have hcovers : b₁.tree.Covers u.tree := htree₁ ▸ Tree.Covers.refl _
  have hsettled (hwritten : ∃ x ∈ conclusion.report.outcomes, x.status = .written) :
      u.IsSettled := by
    unfold Bench.IsSettled
    rw [htree₁, hdir₁]
    exact hhandled.isDirectory nofun hwritten
  obtain ⟨u₁, hagain, hput⟩ :=
    exists_replay hall hsaved (Bench.keepsTemplate_false.mpr hspares) hover hdir₁ hread₁ hcovers hsettled
  obtain ⟨u', hgenerate, hrepeats'⟩ := generate_of_handleAll raiseOnError hagain
  rw [← hconclusion] at hgenerate
  refine ⟨u', hgenerate, ?_⟩
  have hhere : b₁.tree.here = b.tree.here := hhandled.covers.here
  rw [hrepeats'.tree, hput, htree₁, hhere, hhandled.putAll_eq hsaved, hrepeats.tree]

/-- The template in use is found again at a new bench, unless none was in use and one is there. -/
theorem override?_renewed (h : Work.generate c o raiseOnError candidates b = (.ok conclusion, b'))
    (hspares : b.SparesTemplate c conclusion.report.outcomes)
    (hnone : b.override? c = .ok none → ∀ dir content, c.templatesDir = some dir →
      b'.tree.read (templatePath dir) ≠ .ok content) :
    b'.renewed.override? c = b.override? c := by
  obtain ⟨b₁, hall, hrepeats, -⟩ := handleAll_of_generate h
  have hover := override?_of_handleAll hall (Bench.keepsTemplate_false.mpr hspares)
  cases hloaded : b₁.standardLoaded with
  | false =>
    rw [← hover]
    have htemplates : b'.renewed.templates c = b₁.templates c :=
      Bench.templates_congr hrepeats.tree hloaded.symm
    exact congrFun htemplates _
  | true =>
    rw [Bench.override?_of_standardLoaded hloaded] at hover
    rw [← hover]
    change Templates.ofDirectory? c.engine b'.tree c.templatesDir [standardTemplate] = _
    cases hdir : c.templatesDir with
    | none => rfl
    | some dir => exact ofDirectory_eq_none.mpr fun content => hnone hover.symm dir content hdir

theorem generate_again_here
    (h : Work.generate c o raiseOnError candidates b = (.ok conclusion, b'))
    (hsaved : AllSaved conclusion.report.outcomes)
    (hspares : b.SparesTemplate c conclusion.report.outcomes) :
    ∃ u, Work.generate c o raiseOnError candidates b' = (.ok conclusion, u) ∧
      u.tree = b'.tree := by
  obtain ⟨b₁, hall, hrepeats, -⟩ := handleAll_of_generate h
  have hover : b'.override? c = b₁.override? c :=
    congrFun (Bench.templates_congr hrepeats.tree hrepeats.standardLoaded) _
  have hkeeps := Bench.keepsTemplate_false.mpr hspares
  exact generate_again h hsaved hspares rfl rfl rfl
    (hover.trans (override?_of_handleAll hall hkeeps))

/-- A batch whose texts were all saved, over no template in use, is run again with the same
conclusion, and leaves the files as they are: at the same bench, and at a new one unless a template
can be read there where none was in use. -/
theorem generate_idempotent
    (h : Work.generate c o raiseOnError candidates b = (.ok conclusion, b'))
    (hsaved : AllSaved conclusion.report.outcomes)
    (hspares : b.SparesTemplate c conclusion.report.outcomes) :
    (∃ u, Work.generate c o raiseOnError candidates b' = (.ok conclusion, u) ∧
      u.tree = b'.tree) ∧
    ((b.override? c = .ok none → ∀ dir content, c.templatesDir = some dir →
        b'.tree.read (templatePath dir) ≠ .ok content) →
      ∃ u, Work.generate c o raiseOnError candidates b'.renewed = (.ok conclusion, u) ∧
        u.tree = b'.tree) :=
  ⟨generate_again_here h hsaved hspares, fun hnone =>
    generate_again h hsaved hspares rfl rfl rfl (override?_renewed h hspares hnone)⟩

/-- On every sink on the tree of a bench, a batch that saved all its texts over no template in use
ends and leaves the files as it did whenever it is run again and saves all its texts again, whatever
a write of it could have left in a file by failing. -/
theorem generateTo_idempotent {k : Outlet} {spoils : Prop} (hk : k.IsOnTree spoils)
    (h : Work.generateTo k c o raiseOnError candidates b = (.ok conclusion, b'))
    (hsaved : AllSaved conclusion.report.outcomes)
    (hspares : b.SparesTemplate c conclusion.report.outcomes) {again : Conclusion} {u : Bench}
    (hagain : Work.generateTo k c o raiseOnError candidates b' = (.ok again, u))
    (hsaved' : AllSaved again.report.outcomes) : again = conclusion ∧ u.tree = b'.tree := by
  obtain ⟨u', hplain, htree⟩ := generate_again_here (generate_plain hk h hsaved) hsaved hspares
  have hsame := (generate_plain hk hagain hsaved').symm.trans hplain
  cases hsame
  exact ⟨rfl, htree⟩

/-- A bench with a template in the place of the standard form, and a sink that refuses nothing. -/
def openBench : Bench := { templatedBench with sink := { outputDir := .ofText "/native" } }

/-- A batch with failures of its own, one class without fields, and two texts is run again with a
template of the project. -/
theorem generate_idempotent_mixedBatch :
    ∃ conclusion b' u,
      Work.generate templatedConfig {} true mixedBatch openBench = (.ok conclusion, b') ∧
      conclusion.report.outcomes.map (·.status) =
        [.failed, .failed, .skipped, .written, .written] ∧
      Work.generate templatedConfig {} true mixedBatch b'.renewed = (.ok conclusion, u) ∧
      u.tree = b'.tree := by
  have hends : ∃ conclusion,
      (Work.generate templatedConfig {} true mixedBatch openBench).1 = .ok conclusion ∧
      conclusion.report.outcomes.map (·.status) =
        [.failed, .failed, .skipped, .written, .written] ∧
      (∀ x ∈ conclusion.report.outcomes, x.text?.isSome = true → x.status = .written) ∧
      ∀ x ∈ conclusion.report.outcomes,
        ¬x.IsWrittenAt [] ((templatePath (.ofText "/templates")).locate []) :=
    exists_of_any (by decide +kernel)
  have hinuse : openBench.override? templatedConfig ≠ .ok none := by
    have htext : ((openBench.override? templatedConfig).toOption.map fun template =>
        template.map (·.source)) = some (some "unit = 1\n") := by
      decide +kernel
    intro hnone
    rw [hnone] at htext
    cases htext
  obtain ⟨conclusion, hok, hstatuses, hsaved, hnot⟩ := hends
  have hrun := eq_mk_of_fst_eq hok
  have hspares : openBench.SparesTemplate templatedConfig conclusion.report.outcomes := by
    intro dir text hdir _
    obtain rfl := Option.some.inj hdir
    exact hnot
  obtain ⟨u, hagain, htree⟩ :=
    (generate_idempotent hrun hsaved hspares).2 fun hnone => absurd hnone hinuse
  exact ⟨conclusion, _, u, hrun, hstatuses, hagain, htree⟩

/-- The settings of a project that looks for its templates on the way over its output directory. -/
def detourConfig : Config :=
  { Config.defaults (.ofText "/") with
    outputDir := .ofText "/out", templatesDir := some (.ofText "/out/../tpl") }

/-- A bench with a template, and without the output directory. -/
def detourBench : Bench where
  tree.entries := [(["tpl"], .directory),
    (["tpl", standardTemplate], .file "unit = 1\n".toUTF8)]
  sink := { outputDir := detourConfig.outputDir }

/-- A batch that is run again may conclude otherwise at a new bench, though it has not written over
a template: the output directory that it has made leads to one. -/
theorem not_all_generate_idempotent :
    ¬∀ (c : Config) (candidates : List Source) (b b' : Bench) (conclusion : Conclusion),
      Work.generate c { dryRun := false } true candidates b = (.ok conclusion, b') →
      b.standardLoaded = false → AllSaved conclusion.report.outcomes →
      (∀ dir, c.templatesDir = some dir → ∀ x ∈ conclusion.report.outcomes,
        ¬x.IsWrittenAt b.tree.here ((templatePath dir).locate b.tree.here)) →
      ∃ u, Work.generate c { dryRun := false } true candidates b'.renewed = (.ok conclusion, u) ∧
        u.tree = b'.tree := by
  intro hall
  have hends : ∃ conclusion,
      (Work.generate detourConfig { dryRun := false } true namesakes detourBench).1 =
        .ok conclusion ∧
      (∀ x ∈ conclusion.report.outcomes, x.text?.isSome = true → x.status = .written) ∧
      (∀ x ∈ conclusion.report.outcomes,
        ¬x.IsWrittenAt [] ((templatePath (.ofText "/out/../tpl")).locate [])) ∧
      (Work.generate detourConfig { dryRun := false } true namesakes
        (Work.generate detourConfig { dryRun := false } true namesakes
          detourBench).2.renewed).1.toOption ≠ some conclusion :=
    exists_of_any (by decide +kernel)
  obtain ⟨conclusion, hok, hsaved, hnot, hother⟩ := hends
  have hspared (dir : Path) (hdir : detourConfig.templatesDir = some dir) :
      ∀ x ∈ conclusion.report.outcomes,
        ¬x.IsWrittenAt detourBench.tree.here
          ((templatePath dir).locate detourBench.tree.here) := by
    obtain rfl := Option.some.inj hdir
    exact hnot
  obtain ⟨u, hagain, -⟩ := hall detourConfig namesakes detourBench _ conclusion
    (eq_mk_of_fst_eq hok) rfl hsaved hspared
  rw [hagain] at hother
  exact hother rfl

end Main

end StructForge.Batch
