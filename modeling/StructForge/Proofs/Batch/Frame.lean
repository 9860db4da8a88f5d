import StructForge.Proofs.Batch.FileContents

/-! # What a run leaves alone

A run writes the files of its written outcomes, and makes directories on the way to the output
directory. Whatever else is on the disk stays there as it is, wherever the run fails, but for the
records of the log and for files that a failed write has spoiled. -/

namespace StructForge.Batch

open Files Schema Struct

section Main

variable {ι : Type} {d : Disk} {v : Volume ι} {spoils : Prop} {c : Config} {o : Options}
  {raiseOnError : Bool} {candidates : List Source} {b b' : Bench} {conclusion : Conclusion}

/-- A batch on a disk changes files at the paths that its outcomes reach, and makes directories only
if one of them has a text. -/
theorem Disk.Shows.moves_of_generate (hd : d.Shows v spoils)
    (h : Work.generateTo (.onDisk d) c o raiseOnError candidates b = (.ok conclusion, b')) :
    v.Moves b b'
      (fun p => ∃ x ∈ conclusion.report.outcomes, x.Reaches b.sink.outputDir spoils p)
      fun q => (∃ x ∈ conclusion.report.outcomes, x.text?.isSome = true) ∧
        q.Begins b.sink.outputDir := by
  obtain ⟨report, hrun, rfl⟩ := generateTo_run_ok.mp h
  rw [report.report_conclude]
  obtain ⟨b₁, hall, htree⟩ := Work.runTo_onDisk_ok hrun
  exact (hd.handleAll hall).2.trans
    ((hd.quiet b₁ b' htree).mono (fun _ => False.elim) fun _ => False.elim)

theorem Outcome.Reaches.isSome_text? {directory p : Path} {x : Outcome}
    (h : x.Reaches directory spoils p) : x.text?.isSome = true := by
  rcases h with ⟨hstatus, -⟩ | ⟨-, -, htext, -⟩
  · cases x with
    | written => rfl
    | _ => cases hstatus
  · exact htext

/-- A batch that ends leaves every file alone that no written outcome denotes, unless records of the
log go into it or the write of a failed outcome to it has spoiled it. It deletes nothing, and makes
directories only at paths that begin that of the output directory. When no candidate has a text,
nothing but the log changes. What a path denotes, such as an older text of a candidate that is
skipped or fails, it denotes from then on. -/
theorem frame_of_generate (hd : d.Shows v spoils)
    (h : Work.generateTo (.onDisk d) c o raiseOnError candidates b = (.ok conclusion, b')) :
    let outcomes := conclusion.report.outcomes
    let node? := v.node? b'
    (∀ i content, ¬v.isJournal i →
      (∀ x ∈ outcomes, ¬x.IsWrittenTo node? i ∧
        (spoils → ¬x.FailsAt node? b.sink.outputDir i)) →
      (v.holds? b' i = some (.file content) ↔ v.holds? b i = some (.file content))) ∧
    (∀ i e, v.holds? b i = some e →
      ∃ e', v.holds? b' i = some e' ∧ e'.isDirectory = e.isDirectory) ∧
    (∀ i, v.holds? b' i = some .directory → v.holds? b i ≠ some .directory →
      v.holds? b i = none ∧ ∃ q : Path, q.Begins b.sink.outputDir ∧ node? q = some i) ∧
    ((∀ x ∈ outcomes, x.text? = none) → ∀ i, ¬v.isJournal i → v.holds? b' i = v.holds? b i) ∧
    ∀ p i, v.node? b p = some i → node? p = some i := by
  intro outcomes node?
  have hmoves := hd.moves_of_generate h
  refine ⟨fun i content hjournal hnot => ?_, fun i e => hmoves.holds?_of_some, ?_, ?_,
    hmoves.node?⟩
  · refine hmoves.file_iff hjournal (fun p ⟨x, hx, hp⟩ hnode => ?_) content
    obtain ⟨hwritten, hfails⟩ := hnot x hx
    rcases hp.written_or_fails hnode with hw | ⟨hspoils, hf⟩
    · exact hwritten hw
    · exact hfails hspoils hf
  · intro i hmade hnew
    obtain ⟨hnone, q, ⟨-, hq⟩, hnode⟩ := hmoves.exists_made hmade hnew
    exact ⟨hnone, q, hq, hnode⟩
  · intro htext i hjournal
    have hsilent (x) (hx : x ∈ outcomes) : x.text?.isSome ≠ true := by
      rw [htext x hx]
      exact Bool.false_ne_true
    rcases hmoves.holds? i with hsame | ⟨hw | ⟨p, ⟨x, hx, hp⟩, -⟩, -⟩ | ⟨⟨q, ⟨⟨x, hx, hsome⟩, -⟩, -⟩, -⟩
    · exact hsame
    · exact absurd hw hjournal
    · exact absurd hp.isSome_text? (hsilent x hx)
    · exact absurd hsome (hsilent x hx)

end Main

section Spoiled

/-- A link from the file of a class to a file that several projects share. -/
def sharedLink (p : Path) : Path :=
  if p = .ofText "/native/NativeUnit.py" then .ofText "/native/shared.py" else p

/-- A bench with older texts of two candidates of the mixed batch, and a sink that refuses
nothing. -/
def agedBench : Bench where
  tree.entries := (["native"], .directory) ::
    ["NativeSwitch.py", "NativeRival.py", "shared.py"].map fun name =>
      (["native", name], .file "old".toUTF8)
  sink := { outputDir := .ofText "/native" }

/-- The mixed batch, with a link to the file of one candidate, on a disk that is full when the file
of another one has been emptied. -/
def spoiledRun : Except Fault Conclusion × Bench :=
  Work.generateTo (.onDisk (.ofTree sharedLink rivalBreak)) (.defaults (.ofText "/game")) {} true
    mixedBatch agedBench

instance {ι : Type} [DecidableEq ι] (node? : Path → Option ι) (i : ι) (x : Outcome) :
    Decidable (x.IsWrittenTo node? i) :=
  decidable_of_iff (x.status = .written ∧ x.path?.any (fun p => decide (node? p = some i)) = true)
    (by
      unfold Outcome.IsWrittenTo
      simp [Option.any_eq_true])

/-- Among the candidates with older texts one fails at emission, and its text is still there. -/
theorem frame_mixedBatch :
    ∃ conclusion b', spoiledRun = (.ok conclusion, b') ∧
      conclusion.report.outcomes.map (·.status) =
        [.failed, .failed, .skipped, .written, .failed] ∧
      (Volume.ofTree sharedLink).holds? b' ["native", "NativeSwitch.py"] =
        some (.file "old".toUTF8) := by
  have hends : ∃ conclusion, spoiledRun.1 = .ok conclusion ∧
      conclusion.report.outcomes.map (·.status) =
        [.failed, .failed, .skipped, .written, .failed] ∧
      ∀ x ∈ conclusion.report.outcomes,
        ¬x.IsWrittenTo ((Volume.ofTree sharedLink).node? spoiledRun.2)
          ["native", "NativeSwitch.py"] ∧
        ¬x.FailsAt ((Volume.ofTree sharedLink).node? spoiledRun.2) agedBench.sink.outputDir
          ["native", "NativeSwitch.py"] :=
    exists_of_any (by decide +kernel)
  obtain ⟨conclusion, hok, hstatuses, hnot⟩ := hends
  have hrun : spoiledRun = (.ok conclusion, spoiledRun.2) := eq_mk_of_fst_eq hok
  obtain ⟨hfiles, -⟩ := frame_of_generate (Disk.shows_ofTree sharedLink rivalBreak) hrun
  exact ⟨conclusion, spoiledRun.2, hrun, hstatuses,
    (hfiles _ _ id fun x hx => ⟨(hnot x hx).1, fun _ => (hnot x hx).2⟩).mpr rfl⟩

/-- Whether runs on a disk keep every file that no written outcome denotes. -/
def KeepsUnwritten {ι : Type} (d : Disk) (v : Volume ι) : Prop :=
  ∀ (c : Config) (b b' : Bench) (raiseOnError : Bool) (candidates : List Source)
    (conclusion : Conclusion),
    Work.generateTo (.onDisk d) c {} raiseOnError candidates b = (.ok conclusion, b') →
    ∀ i content, (∀ x ∈ conclusion.report.outcomes, ¬x.IsWrittenTo (v.node? b') i) →
      v.holds? b i = some (.file content) → v.holds? b' i = some (.file content)

def loggedVolume : Volume Location :=
  (Volume.ofTree id).journaled ["n.log"] "old\n" (.forConsole false) "<time>"

def fileSize? : Option Entry → Option Nat
  | some (.file content) => some content.size
  | _ => none

theorem not_keepsUnwritten_of_any {ι : Type} [DecidableEq ι] {d : Disk} {v : Volume ι} (c : Config)
    (b : Bench) (candidates : List Source) (i : ι) (content : ByteArray)
    (hfile : v.holds? b i = some (.file content))
    (h : let answer := Work.generateTo (.onDisk d) c {} true candidates b
      (answer.1.toOption.any fun conclusion => decide ((∀ x ∈ conclusion.report.outcomes,
        ¬x.IsWrittenTo (v.node? answer.2) i))) = true ∧
      fileSize? (v.holds? answer.2 i) ≠ some content.size) : ¬KeepsUnwritten d v := by
  intro hall
  obtain ⟨hany, hne⟩ := h
  obtain ⟨conclusion, hok, hnot⟩ := exists_of_any hany
  refine hne ?_
  rw [hall c b _ true candidates conclusion (eq_mk_of_fst_eq hok) i content hnot hfile]
  rfl

/-- Files that no written outcome denotes do change: the file of the log by the records of the run,
and the older text of a candidate by a write that fails after the file was emptied. -/
theorem not_all_keepUnwritten :
    ¬KeepsUnwritten Disk.tree loggedVolume ∧
      ¬KeepsUnwritten (Disk.ofTree sharedLink rivalBreak) (Volume.ofTree sharedLink) := by
  constructor
  · refine not_keepsUnwritten_of_any (.defaults (.ofText "/game")) agedBench mixedBatch
      ["n.log"] "old\n".toUTF8 ?_ ⟨?_, ?_⟩
    · rfl
    · decide +kernel
    · decide +kernel
  · refine not_keepsUnwritten_of_any (.defaults (.ofText "/game")) agedBench mixedBatch
      ["native", "NativeRival.py"] "old".toUTF8 ?_ ⟨?_, ?_⟩
    · rfl
    · decide +kernel
    · decide +kernel

end Spoiled

end StructForge.Batch
