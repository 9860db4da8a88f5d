import StructForge.Proofs.Batch.Treatment
import StructForge.Proofs.Files.Making

/-! # What handling a candidate does

Each way for a candidate to end says which tree and which sink it leaves. The log is left out: it
grows, and nothing of the batch reads it. -/

namespace StructForge.Batch

open Files Schema Struct

namespace Work

variable {α : Type} {b b' : Bench} {name text : String}

theorem act_run (a : Action α) (b : Bench) :
    act a b = ((a b.tree).1, { b with tree := (a b.tree).2 }) := by
  unfold act
  rw [get_bind_run]
  rcases a b.tree with ⟨f | r, tree⟩ <;> rfl

theorem ensureDirectory_run (b : Bench) :
    ensureDirectory b =
      match Action.makeDirectories b.sink.outputDir b.tree with
      | (.ok (), tree) => (.ok b.sink.outputDir, { b with tree })
      | (.error f, tree) => (.error f, { b with tree }) := by
  unfold ensureDirectory
  rw [bind_run]
  change ((act (Action.makeDirectories b.sink.outputDir) >>= fun _ =>
    (return b.sink.outputDir : Work Path)) b) = _
  rw [bind_run, act_run]
  rcases Action.makeDirectories b.sink.outputDir b.tree with ⟨f | ⟨⟩, tree⟩ <;> rfl

theorem write_run (name text : String) (b : Bench) :
    write name text b =
      if b.sink.readOnly.contains name then
        (.error ⟨.os .permission, s!"read-only: {name}"⟩, b)
      else
        match Action.writeText (b.sink.outputDir.child name) text b.tree with
        | (.ok (), tree) =>
          (.ok (b.sink.outputDir.child name), { b with
            tree
            sink := { b.sink with pending := b.sink.pending ++ [b.sink.outputDir.child name] }
            log := b.log ++ [⟨.debug, loggerName "writer",
              s!"Wrote {(b.sink.outputDir.child name).text} ({text.utf8ByteSize} bytes)"⟩] })
        | (.error f, tree) => (.error f, { b with tree }) := by
  unfold write
  rw [bind_run]
  by_cases hread : b.sink.readOnly.contains name = true
  · rw [if_pos hread]
    change (if b.sink.readOnly.contains name then _ else _ : Work Path) b = _
    rw [if_pos hread]
    rfl
  · rw [if_neg hread]
    change (if b.sink.readOnly.contains name then _ else _ : Work Path) b = _
    rw [if_neg hread]
    change
      (act (Action.writeText (b.sink.outputDir.child name) text) >>= fun _ => _ : Work Path) b = _
    rw [bind_run, act_run]
    rcases Action.writeText (b.sink.outputDir.child name) text b.tree with ⟨f | ⟨⟩, tree⟩ <;> rfl

end Work

/-- The trees in which a text is written: the given one when the output directory is known to be
there, and else the one that making it leaves. -/
inductive Prepared (ready : Bool) (sink : Sink) (start : Tree) : Tree → Prop
  | known (h : ready = true) : Prepared ready sink start start
  | made {tree : Tree} (h : ready = false)
      (hmade : Action.makeDirectories sink.outputDir start = (.ok (), tree)) :
      Prepared ready sink start tree

/-- How handling a candidate ends, from the templates in use, a tree and a sink: whether the output
directory is known to be there, the outcome, and the tree and sink that are left. -/
inductive Handled (c : Config) (o : Options) (templates : Templates) (ready : Bool) (s : Source)
    (start : Tree) (sink : Sink) : Bool → Outcome → Tree → Sink → Prop
  | unnamed {f : NamingFault} (hname : c.naming.target s = .error f) :
      Handled c o templates ready s start sink ready (.unnamed s.name f.message) start sink
  | unrendered {t : Target} {error : String} (hname : c.naming.target s = .ok t)
      (hdraft : draft templates t s.extract = .ok (.unrendered error)) :
      Handled c o templates ready s start sink ready
        (.unrendered s.name t s.extract.dropped error) start sink
  | skipped {t : Target} (hname : c.naming.target s = .ok t)
      (hdraft : draft templates t s.extract = .ok .empty) :
      Handled c o templates ready s start sink ready (.skipped s.name t s.extract.dropped) start
        sink
  | previewed {t : Target} {text : String} (hname : c.naming.target s = .ok t)
      (hdraft : draft templates t s.extract = .ok (.ready text))
      (hdry : o.dryRun = true) :
      Handled c o templates ready s start sink ready
        (.previewed s.name t s.extract.dropped (sink.outputDir.child t.fileName) text) start sink
  | noDirectory {t : Target} {text : String} {f : Fault} {tree : Tree}
      (hname : c.naming.target s = .ok t)
      (hdraft : draft templates t s.extract = .ok (.ready text))
      (hdry : o.dryRun = false) (hready : ready = false)
      (hmade : Action.makeDirectories sink.outputDir start = (.error f, tree))
      (hos : f.kind.isOs = true) :
      Handled c o templates ready s start sink false
        (.unwritten s.name t s.extract.dropped text f.message) tree sink
  | refused {t : Target} {text : String} {tree : Tree}
      (hname : c.naming.target s = .ok t)
      (hdraft : draft templates t s.extract = .ok (.ready text))
      (hdry : o.dryRun = false) (hprep : Prepared ready sink start tree)
      (hread : sink.readOnly.contains t.fileName = true) :
      Handled c o templates ready s start sink true
        (.unwritten s.name t s.extract.dropped text s!"read-only: {t.fileName}") tree sink
  | unwritten {t : Target} {text : String} {f : Fault} {tree : Tree}
      (hname : c.naming.target s = .ok t)
      (hdraft : draft templates t s.extract = .ok (.ready text))
      (hdry : o.dryRun = false) (hprep : Prepared ready sink start tree)
      (hread : sink.readOnly.contains t.fileName = false)
      (hwrite : Action.writeText (sink.outputDir.child t.fileName) text tree = (.error f, tree))
      (hos : f.kind.isOs = true) :
      Handled c o templates ready s start sink true
        (.unwritten s.name t s.extract.dropped text f.message) tree sink
  | written {t : Target} {text : String} {tree tree' : Tree}
      (hname : c.naming.target s = .ok t)
      (hdraft : draft templates t s.extract = .ok (.ready text))
      (hdry : o.dryRun = false) (hprep : Prepared ready sink start tree)
      (hread : sink.readOnly.contains t.fileName = false)
      (hwrite : Action.writeText (sink.outputDir.child t.fileName) text tree = (.ok (), tree')) :
      Handled c o templates ready s start sink true
        (.written s.name t s.extract.dropped (sink.outputDir.child t.fileName) text) tree'
        { sink with pending := sink.pending ++ [sink.outputDir.child t.fileName] }

namespace Work

variable {c : Config} {o : Options} {ready ready' : Bool} {s : Source} {b b' : Bench}
  {outcome : Outcome} {t : Target} {name text : String} {answer : Except Fault Path}

theorem ensureDirectory_run_ok {dir : Path} (h : ensureDirectory b = (.ok dir, b')) :
    Action.makeDirectories b.sink.outputDir b.tree = (.ok (), b'.tree) ∧ b'.sink = b.sink := by
  rw [ensureDirectory_run] at h
  rcases hmade : Action.makeDirectories b.sink.outputDir b.tree with ⟨f | ⟨⟩, tree⟩
  · rw [hmade] at h
    cases h
  · rw [hmade] at h
    cases h
    exact ⟨rfl, rfl⟩

theorem ensureDirectory_run_error {f : Fault} (h : ensureDirectory b = (.error f, b')) :
    Action.makeDirectories b.sink.outputDir b.tree = (.error f, b'.tree) ∧ b'.sink = b.sink := by
  rw [ensureDirectory_run] at h
  rcases hmade : Action.makeDirectories b.sink.outputDir b.tree with ⟨f' | ⟨⟩, tree⟩
  · rw [hmade] at h
    cases h
    exact ⟨rfl, rfl⟩
  · rw [hmade] at h
    cases h

theorem write_run_ok {path : Path} (h : write name text b = (.ok path, b')) :
    b.sink.readOnly.contains name = false ∧ path = b.sink.outputDir.child name ∧
      Action.writeText (b.sink.outputDir.child name) text b.tree = (.ok (), b'.tree) ∧
      b'.sink = { b.sink with pending := b.sink.pending ++ [b.sink.outputDir.child name] } := by
  rw [write_run] at h
  cases hread : b.sink.readOnly.contains name with
  | true =>
    rw [hread, if_pos rfl] at h
    cases h
  | false =>
    rw [hread, if_neg Bool.false_ne_true] at h
    rcases hwrite : Action.writeText (b.sink.outputDir.child name) text b.tree with ⟨f | ⟨⟩, tree⟩
    · rw [hwrite] at h
      cases h
    · rw [hwrite] at h
      cases h
      exact ⟨rfl, rfl, rfl, rfl⟩

theorem write_run_error {f : Fault} (h : write name text b = (.error f, b')) :
    b'.tree = b.tree ∧ b'.sink = b.sink ∧
      (b.sink.readOnly.contains name = true ∧ f = ⟨.os .permission, s!"read-only: {name}"⟩ ∨
        b.sink.readOnly.contains name = false ∧
          Action.writeText (b.sink.outputDir.child name) text b.tree = (.error f, b.tree)) := by
  rw [write_run] at h
  cases hread : b.sink.readOnly.contains name with
  | true =>
    rw [hread, if_pos rfl] at h
    cases h
    exact ⟨rfl, rfl, .inl ⟨rfl, rfl⟩⟩
  | false =>
    rw [hread, if_neg Bool.false_ne_true] at h
    rcases hwrite : Action.writeText (b.sink.outputDir.child name) text b.tree with ⟨f' | ⟨⟩, tree⟩
    · have htree := Action.writeText_run_error hwrite
      rw [hwrite] at h
      cases h
      exact ⟨htree, rfl, .inr ⟨rfl, by rw [htree]⟩⟩
    · rw [hwrite] at h
      cases h

theorem prepared_of_readies {b₁ : Bench} (h : Outlet.files.Readies ready b b₁) :
    Prepared ready b.sink b.tree b₁.tree ∧ b₁.sink = b.sink := by
  cases h with
  | known hready => exact ⟨.known hready, rfl⟩
  | made hready hmade =>
    obtain ⟨htree, hsink⟩ := ensureDirectory_run_ok hmade
    exact ⟨.made hready htree, hsink⟩

theorem handled_of_unwritten {f : Fault} (hname : c.naming.target s = .ok t)
    (hdraft : draft (b.templates c) t s.extract = .ok (.ready text))
    (hdry : o.dryRun = false)
    (hsave : Outlet.files.Saves ready t.fileName text (b.rendered c s t) ready'
      (.error f) b') :
    Handled c o (b.templates c) ready s b.tree b.sink ready'
      (.unwritten s.name t s.extract.dropped text f.message) b'.tree b'.sink := by
  cases hsave with
  | noDirectory hready hmade hos =>
    obtain ⟨htree, hsink⟩ := ensureDirectory_run_error hmade
    rw [hsink]
    exact .noDirectory hname hdraft hdry hready htree hos
  | unwritten hready hwrite hos =>
    obtain ⟨hprep, hsink⟩ := prepared_of_readies hready
    obtain ⟨htree', hsink', hwhy⟩ := write_run_error hwrite
    rw [htree', hsink', hsink]
    rw [hsink] at hwhy
    rcases hwhy with ⟨hread, rfl⟩ | ⟨hread, htext⟩
    · exact .refused hname hdraft hdry hprep hread
    · exact .unwritten hname hdraft hdry hprep hread htext hos

/-- Handling a candidate ends in one of the ways listed. -/
theorem handle_run_ok (h : handle .files c o ready s b = (.ok (ready', outcome), b')) :
    Handled c o (b.templates c) ready s b.tree b.sink ready' outcome b'.tree b'.sink := by
  cases treated_of_handle h with
  | unnamed hname => exact .unnamed hname
  | unrendered hname hdraft => exact .unrendered hname hdraft
  | skipped hname hdraft => exact .skipped hname hdraft
  | previewed hname hdraft hdry => exact .previewed hname hdraft hdry
  | unwritten hname hdraft hdry hsave =>
    rw [Bench.logged_tree, Bench.logged_sink]
    exact handled_of_unwritten hname hdraft hdry hsave
  | written hname hdraft hdry hsave =>
    cases hsave with
    | written hready hwrite =>
      obtain ⟨hprep, hsink⟩ := prepared_of_readies hready
      obtain ⟨hread, rfl, htext, hsink'⟩ := write_run_ok hwrite
      simp only [hsink, Bench.rendered_sink] at hread htext hsink' ⊢
      rw [Bench.logged_tree, Bench.logged_sink, hsink']
      exact .written hname hdraft hdry hprep hread htext

end Work

/-- How handling candidates in order ends. -/
inductive HandledAll (c : Config) (o : Options) :
    Bool → List Source → Tree → Sink → List Outcome → Tree → Sink → Prop
  | nil {ready : Bool} {tree : Tree} {sink : Sink} :
      HandledAll c o ready [] tree sink [] tree sink
  | cons {templates : Templates} {ready ready' : Bool} {s : Source} {rest : List Source}
      {tree tree' tree'' : Tree} {sink sink' sink'' : Sink} {outcome : Outcome}
      {outcomes : List Outcome}
      (head : Handled c o templates ready s tree sink ready' outcome tree' sink')
      (tail : HandledAll c o ready' rest tree' sink' outcomes tree'' sink'') :
      HandledAll c o ready (s :: rest) tree sink (outcome :: outcomes) tree'' sink''

namespace Work

variable {c : Config} {o : Options} {ready : Bool} {candidates : List Source} {b b' : Bench}
  {outcomes : List Outcome}

theorem handleAll_run_ok (h : handleAll .files c o ready candidates b = (.ok outcomes, b')) :
    HandledAll c o ready candidates b.tree b.sink outcomes b'.tree b'.sink := by
  induction candidates generalizing ready b outcomes with
  | nil =>
    obtain ⟨rfl, rfl⟩ := pure_run_ok.mp h
    exact .nil
  | cons s rest ih =>
    obtain ⟨ready', outcome, outcomes', b₁, hhandle, hrest, rfl⟩ := handleAll_cons_run_ok.mp h
    exact .cons (handle_run_ok hhandle) (ih hrest)

/-- A run handles its candidates; what it does then leaves the tree alone, and at most empties the
list of what has to be announced. -/
theorem run_ok {report : Report} (h : run c o candidates b = (.ok report, b')) :
    ∃ sink, HandledAll c o false candidates b.tree b.sink report.outcomes b'.tree sink ∧
      b'.sink = if report.written.isEmpty then sink else { sink with pending := [] } := by
  obtain ⟨outcomes, b₁, hall, h⟩ := bind_run_ok.mp h
  have hall := handleAll_run_ok hall
  refine ⟨b₁.sink, ?_⟩
  cases hempty : (Report.mk outcomes).written.isEmpty with
  | true =>
    simp only [hempty] at h
    obtain ⟨rfl, records, rfl⟩ := say_return_run_ok h
    rw [hempty]
    exact ⟨hall, rfl⟩
  | false =>
    simp only [hempty] at h
    obtain ⟨paths, b₂, hrefresh, h⟩ := bind_run_ok.mp h
    obtain ⟨rfl, records, rfl⟩ := say_return_run_ok h
    cases hrefresh
    rw [hempty]
    exact ⟨hall, rfl⟩

end Work

end StructForge.Batch
