import StructForge.Proofs.Batch.Accounting
import StructForge.Proofs.Batch.Handling

/-! # What is announced

A sink keeps the paths that it has written until they are announced. Each batch announces those of
its own outcomes, all at once and in their order, and leaves none for a later batch, whatever has
failed on the way. -/

namespace StructForge.Batch

open Files Schema Struct

def Outcome.writtenPath? : Outcome → Option Path
  | .written _ _ _ path _ => some path
  | _ => none

def Report.writtenPaths (r : Report) : List Path := r.outcomes.filterMap (·.writtenPath?)

/-- The paths that wait to be announced, and those that were announced together each time. -/
def Bench.ledger (b : Bench) : List Path × List (List Path) := (b.sink.pending, b.announced)

@[simp] theorem Bench.logged_ledger (b : Bench) (records : List LogRecord) :
    (b.logged records).ledger = b.ledger := rfl

@[simp] theorem Bench.drafted_ledger (b : Bench) (c : Config) (s : Source) (t : Target) :
    (b.drafted c s t).ledger = b.ledger := rfl

@[simp] theorem Bench.rendered_ledger (b : Bench) (c : Config) (s : Source) (t : Target) :
    (b.rendered c s t).ledger = b.ledger := rfl

theorem Report.map_path?_written (r : Report) :
    r.written.map (·.path?) = r.writtenPaths.map some := by
  obtain ⟨outcomes⟩ := r
  unfold written withStatus writtenPaths
  induction outcomes with
  | nil => rfl
  | cons x rest ih => cases x <;> simp_all [Outcome.status, Outcome.path?, Outcome.writtenPath?]

theorem Report.written_isEmpty_iff (r : Report) :
    r.written.isEmpty = true ↔ r.writtenPaths = [] := by
  have hlength : r.written.length = r.writtenPaths.length := by
    simpa using congrArg List.length r.map_path?_written
  rw [List.isEmpty_iff, ← List.length_eq_zero_iff, hlength, List.length_eq_zero_iff]

/-! ## Sinks with something in their way -/

/-- What stands in the way of a sink apart from its files: at some benches the directory cannot be
made, or a text not written under a name. The fault comes with the files that the attempt leaves. -/
structure Hindrance where
  directory : Bench → Option (Fault × Tree) := fun _ => none
  write : String → String → Bench → Option (Fault × Tree) := fun _ _ _ => none

/-- Work that fails where something stands in its way. -/
def Work.hindered {α : Type} (obstacle : Bench → Option (Fault × Tree)) (w : Work α) : Work α := do
  match obstacle (← get) with
  | none => w
  | some (f, tree) => do
    modify fun b => { b with tree }
    throw f

/-- The sink of the bench as an outlet, with something in its way. -/
def Outlet.hindered (h : Hindrance) : Outlet :=
  { Outlet.files with
    ensureDirectory := Work.hindered h.directory Work.ensureDirectory
    write := fun name text => Work.hindered (h.write name text) (Work.write name text) }

/-- Whether an outlet keeps account of what it writes: a text that is written adds its path to those
that wait, what fails adds nothing, and announcing hands over all that wait. -/
structure Outlet.KeepsLedger (k : Outlet) : Prop where
  ensureDirectory : ∀ b, (k.ensureDirectory b).2.ledger = b.ledger
  write : ∀ name text b, (k.write name text b).2.ledger =
    (b.sink.pending ++ (k.write name text b).1.toOption.toList, b.announced)
  refresh : k.refresh = Work.refresh

namespace Work

variable {α : Type} {obstacle : Bench → Option (Fault × Tree)} {w : Work α} {b b' : Bench}

theorem hindered_run (obstacle : Bench → Option (Fault × Tree)) (w : Work α) (b : Bench) :
    hindered obstacle w b = match obstacle b with
      | none => w b
      | some (f, tree) => (.error f, { b with tree }) := by
  unfold hindered
  rw [get_bind_run]
  rcases obstacle b with _ | ⟨f, tree⟩ <;> rfl

end Work

theorem Outlet.keepsLedger_hindered (h : Hindrance) : (Outlet.hindered h).KeepsLedger where
  ensureDirectory b := by
    change (Work.hindered h.directory Work.ensureDirectory b).2.ledger = b.ledger
    rw [Work.hindered_run]
    rcases h.directory b with _ | ⟨f, tree⟩
    · rw [Work.ensureDirectory_run]
      rcases Action.makeDirectories b.sink.outputDir b.tree with ⟨f | ⟨⟩, tree⟩ <;> rfl
    · rfl
  write name text b := by
    change (Work.hindered (h.write name text) (Work.write name text) b).2.ledger =
      (_ ++ (Work.hindered (h.write name text) (Work.write name text) b).1.toOption.toList, _)
    rw [Work.hindered_run]
    rcases h.write name text b with _ | ⟨f, tree⟩
    · rw [Work.write_run]
      cases b.sink.readOnly.contains name with
      | true => simp [Bench.ledger, Except.toOption]
      | false =>
        rcases Action.writeText (b.sink.outputDir.child name) text b.tree with ⟨f | ⟨⟩, tree⟩ <;>
          simp [Bench.ledger, Except.toOption]
    · simp [Bench.ledger, Except.toOption]
  refresh := rfl

/-! ## One batch -/

section Batch

variable {k : Outlet} {c : Config} {o : Options} {ready ready' raiseOnError : Bool} {s : Source}
  {candidates : List Source} {b b' : Bench} {name text : String} {answer : Except Fault Path}
  {outcome : Outcome} {outcomes : List Outcome} {report : Report} {conclusion : Conclusion}

theorem Outlet.Readies.ledger (hk : k.KeepsLedger) (h : k.Readies ready b b') :
    b'.ledger = b.ledger := by
  cases h with
  | known => rfl
  | made _ hmade =>
    have hledger := hk.ensureDirectory b
    rw [hmade] at hledger
    exact hledger

/-- Saving a text adds its path to those that wait, and nothing if it fails. -/
theorem Outlet.Saves.ledger (hk : k.KeepsLedger) (h : k.Saves ready name text b ready' answer b') :
    b'.ledger = (b.sink.pending ++ answer.toOption.toList, b.announced) := by
  have hwritten {b₁ : Bench} (hready : k.Readies ready b b₁)
      (hwrite : k.write name text b₁ = (answer, b')) :
      b'.ledger = (b.sink.pending ++ answer.toOption.toList, b.announced) := by
    have hledger := hk.write name text b₁
    obtain ⟨hpending, hannounced⟩ := Prod.mk.inj (hready.ledger hk)
    rw [hwrite, hpending, hannounced] at hledger
    exact hledger
  cases h with
  | noDirectory _ hmade =>
    have hledger := hk.ensureDirectory b
    rw [hmade] at hledger
    rw [hledger, Except.toOption, Option.toList_none, List.append_nil]
    rfl
  | unwritten hready hwrite => exact hwritten hready hwrite
  | written hready hwrite => exact hwritten hready hwrite

/-- A candidate adds the path of its outcome to those that wait, if its text is written. -/
theorem Treated.ledger (hk : k.KeepsLedger) (h : Treated k c o ready s b ready' outcome b') :
    b'.ledger = (b.sink.pending ++ outcome.writtenPath?.toList, b.announced) := by
  have hidle : b.ledger = (b.sink.pending ++ [], b.announced) := by
    rw [List.append_nil]
    rfl
  cases h with
  | unnamed => exact hidle
  | unrendered => exact hidle
  | skipped => exact hidle
  | previewed => exact hidle
  | unwritten _ _ _ hsave => exact hsave.ledger hk
  | written _ _ _ hsave => exact hsave.ledger hk

theorem ledger_of_handleAll (hk : k.KeepsLedger)
    (h : Work.handleAll k c o ready candidates b = (.ok outcomes, b')) :
    b'.ledger = (b.sink.pending ++ outcomes.filterMap (·.writtenPath?), b.announced) := by
  induction candidates generalizing ready b outcomes with
  | nil =>
    obtain ⟨rfl, rfl⟩ := pure_run_ok.mp h
    simp [Bench.ledger]
  | cons s rest ih =>
    obtain ⟨ready', outcome, outcomes', b₁, hhandle, hrest, rfl⟩ := Work.handleAll_cons_run_ok.mp h
    have hfirst : (b₁.sink.pending, b₁.announced) = _ :=
      (Work.treated_of_handle hhandle).ledger hk
    obtain ⟨hpending, hannounced⟩ := Prod.mk.inj hfirst
    rw [ih hrest, hpending, hannounced, List.append_assoc, List.filterMap_cons]
    cases outcome.writtenPath? <;> rfl

/-- A batch hands over at its end what waits by then, unless it has written nothing. -/
theorem ledger_of_generateTo (hk : k.KeepsLedger)
    (h : Work.generateTo k c o raiseOnError candidates b = (.ok conclusion, b')) :
    b'.ledger = if conclusion.report.writtenPaths = [] then b.ledger
      else ([], b.announced ++ [b.sink.pending ++ conclusion.report.writtenPaths]) := by
  obtain ⟨report, hrun, rfl⟩ := generateTo_run_ok.mp h
  rw [report.report_conclude]
  obtain ⟨outcomes, b₁, hall, hrun⟩ := bind_run_ok.mp hrun
  have hledger := ledger_of_handleAll hk hall
  cases hempty : (Report.mk outcomes).written.isEmpty with
  | true =>
    have hnone : (Report.mk outcomes).writtenPaths = [] :=
      (Report.written_isEmpty_iff _).mp hempty
    simp only [hempty] at hrun
    obtain ⟨rfl, records, rfl⟩ := Work.say_return_run_ok hrun
    rw [if_pos hnone, Bench.logged_ledger, hledger]
    change (b.sink.pending ++ (Report.mk outcomes).writtenPaths, b.announced) = b.ledger
    rw [hnone, List.append_nil]
    rfl
  | false =>
    have hsome : (Report.mk outcomes).writtenPaths ≠ [] := by
      rw [ne_eq, ← Report.written_isEmpty_iff, hempty]
      exact Bool.false_ne_true
    simp only [hempty, hk.refresh] at hrun
    obtain ⟨paths, b₂, hrefresh, hrun⟩ := bind_run_ok.mp hrun
    obtain ⟨rfl, records, rfl⟩ := Work.say_return_run_ok hrun
    cases hrefresh
    rw [if_neg hsome]
    obtain ⟨hpending, hannounced⟩ := Prod.mk.inj hledger
    change ([], b₁.announced ++ [b₁.sink.pending]) = _
    rw [hpending, hannounced]
    rfl

end Batch

/-! ## Batches one after the other -/

/-- A batch that is run after the files have changed by other means, with something in the way of
its sink. -/
structure Round where
  meanwhile : Tree → Tree
  hindrance : Hindrance
  options : Options
  raiseOnError : Bool
  candidates : List Source

namespace Work

def round (c : Config) (r : Round) : Work Conclusion := do
  modify fun b => { b with tree := r.meanwhile b.tree }
  generateTo (.hindered r.hindrance) c r.options r.raiseOnError r.candidates

def rounds (c : Config) (rs : List Round) : Work (List Conclusion) := rs.mapM (round c)

end Work

/-- Batches that are concluded one after the other. Each begins and ends with no path that waits,
and announces once what it has written, or nothing if it has written nothing. -/
inductive AnnouncesAll (c : Config) : List Round → Bench → List Conclusion → Bench → Prop
  | nil {b : Bench} (hpending : b.sink.pending = []) : AnnouncesAll c [] b [] b
  | cons {r : Round} {rest : List Round} {b b' b'' : Bench} {conclusion : Conclusion}
      {conclusions : List Conclusion} {paths : List Path}
      (hpending : b.sink.pending = [])
      (hrun : Work.round c r b = (.ok conclusion, b'))
      (hpaths : conclusion.report.written.map (·.path?) = paths.map some)
      (hannounced : b'.announced = b.announced ++ if paths = [] then [] else [paths])
      (tail : AnnouncesAll c rest b' conclusions b'') :
      AnnouncesAll c (r :: rest) b (conclusion :: conclusions) b''

section Main

variable {c : Config} {r : Round} {rs : List Round} {b b' : Bench} {conclusion : Conclusion}
  {conclusions : List Conclusion}

/-- A round that begins with no path that waits announces what it writes, and nothing else. -/
theorem announced_of_round (hpending : b.sink.pending = [])
    (h : Work.round c r b = (.ok conclusion, b')) :
    b'.sink.pending = [] ∧ b'.announced = b.announced ++
      if conclusion.report.writtenPaths = [] then [] else [conclusion.report.writtenPaths] := by
  have hledger := ledger_of_generateTo (Outlet.keepsLedger_hindered r.hindrance) h
  rw [← Prod.mk.injEq]
  refine hledger.trans ?_
  change (if _ then (b.sink.pending, b.announced)
    else ([], b.announced ++ [b.sink.pending ++ conclusion.report.writtenPaths])) = _
  rw [hpending]
  split <;> simp

/-- Over any number of batches with one sink, whichever of them are dry and whatever keeps them from
writing, each batch announces exactly the paths of its written outcomes, once and in their order, and
none waits between two batches. So what is announced over all of them are the written paths, batch by
batch. -/
theorem announces_of_rounds (hpending : b.sink.pending = [])
    (h : Work.rounds c rs b = (.ok conclusions, b')) :
    AnnouncesAll c rs b conclusions b' ∧ b'.sink.pending = [] ∧
      b'.announced = b.announced ++
        (conclusions.map fun x => x.report.writtenPaths).filter (· ≠ []) := by
  induction rs generalizing b conclusions with
  | nil =>
    obtain ⟨rfl, rfl⟩ := pure_run_ok.mp h
    exact ⟨.nil hpending, hpending, by simp⟩
  | cons r rest ih =>
    unfold Work.rounds at h
    rw [List.mapM_cons] at h
    obtain ⟨conclusion, b₁, hround, h⟩ := bind_run_ok.mp h
    obtain ⟨conclusions', b₂, hrest, h⟩ := bind_run_ok.mp h
    obtain ⟨rfl, rfl⟩ := pure_run_ok.mp h
    obtain ⟨hpending₁, hannounced₁⟩ := announced_of_round hpending hround
    obtain ⟨htail, hpending₂, hannounced₂⟩ := ih hpending₁ hrest
    refine ⟨.cons hpending hround (Report.map_path?_written _) hannounced₁ htail, hpending₂, ?_⟩
    rw [hannounced₂, hannounced₁, List.append_assoc, List.map_cons, List.filter_cons]
    split <;> simp_all

/-- Four batches: five candidates of which one is written, the same ones dry, one whose directory
cannot be made, and the same one twice after all files have gone. -/
def unevenRounds : List Round :=
  let unit := mixedBatch.drop 3 |>.take 1
  let noDirectory : Hindrance := { directory := fun b => some (⟨.os .permission, ""⟩, b.tree) }
  [⟨id, {}, {}, true, mixedBatch⟩, ⟨id, {}, { dryRun := true }, false, mixedBatch⟩,
    ⟨id, noDirectory, {}, false, unit⟩, ⟨fun _ => {}, {}, {}, false, unit ++ unit⟩]

/-- Two of four batches write something. The path that is written three times is announced three
times, by the batches that wrote it. -/
theorem announces_unevenRounds :
    refusingBench.sink.pending = [] ∧
      ∃ conclusions b',
        Work.rounds (.defaults (.ofText "/game")) unevenRounds refusingBench =
          (.ok conclusions, b') ∧
        conclusions.map (·.raised?.isSome) = [true, false, false, false] ∧
        AnnouncesAll (.defaults (.ofText "/game")) unevenRounds refusingBench conclusions b' ∧
        b'.sink.pending = [] ∧
        b'.announced.map (·.map (·.text)) =
          [["/native/NativeUnit.py"], ["/native/NativeUnit.py", "/native/NativeUnit.py"]] := by
  obtain ⟨conclusions, hanswer, hraised, hpaths⟩ : ∃ conclusions,
      (Work.rounds (.defaults (.ofText "/game")) unevenRounds refusingBench).1 = .ok conclusions ∧
      conclusions.map (·.raised?.isSome) = [true, false, false, false] ∧
      ((conclusions.map fun x => x.report.writtenPaths).filter (· ≠ [])).map (·.map (·.text)) =
        [["/native/NativeUnit.py"], ["/native/NativeUnit.py", "/native/NativeUnit.py"]] := by
    apply exists_of_any
    decide +kernel
  have hrun := eq_mk_of_fst_eq hanswer
  obtain ⟨hall, hpending, hannounced⟩ := announces_of_rounds rfl hrun
  refine ⟨rfl, conclusions, _, hrun, hraised, hall, hpending, ?_⟩
  rw [hannounced, ← hpaths]
  rfl

end Main

end StructForge.Batch
