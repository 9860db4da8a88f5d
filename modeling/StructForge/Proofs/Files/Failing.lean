import StructForge.Proofs.Files.FileNames
import StructForge.Proofs.Files.Making

/-! # How working with files fails

At a path without the null character, making directories and writing a file fail with errors of the
file system only. -/

namespace StructForge

open Files Schema

theorem mem_of_mem_splitAt {separator c : Char} {cs piece : List Char}
    (hpiece : piece ∈ Text.splitAt separator cs) (hc : c ∈ piece) : c ∈ cs := by
  induction cs generalizing piece with
  | nil =>
    simp only [Text.splitAt, List.mem_singleton] at hpiece
    exact hpiece ▸ hc
  | cons first rest ih =>
    rw [Text.splitAt] at hpiece
    split at hpiece
    · rcases List.mem_cons.mp hpiece with rfl | hpiece
      · cases hc
      · exact List.mem_cons_of_mem _ (ih hpiece hc)
    · split at hpiece
      · rename_i head pieces hsplit
        rcases List.mem_cons.mp hpiece with rfl | hpiece
        · rcases List.mem_cons.mp hc with rfl | hc
          · exact List.mem_cons_self
          · exact List.mem_cons_of_mem _ (ih (hsplit ▸ List.mem_cons_self) hc)
        · exact List.mem_cons_of_mem _ (ih (hsplit ▸ List.mem_cons_of_mem _ hpiece) hc)
      · rename_i hsplit
        exact absurd hsplit (Text.splitAt_ne_nil _ _)

namespace Files

theorem Path.holdsNull_iff {p : Path} :
    p.holdsNull = true ↔ ∃ name ∈ p.names, '\x00' ∈ name.toList := by
  simp [Path.holdsNull]

/-- A text without the null character leads from a path without it to another one. -/
theorem Path.holdsNull_child {p : Path} {s : String} (hp : p.holdsNull = false)
    (hs : '\x00' ∉ s.toList) : (p.child s).holdsNull = false := by
  have htext : ∀ name ∈ (Path.ofText s).names, '\x00' ∉ name.toList := by
    intro name hname hnull
    unfold Path.ofText Text.pieces at hname
    obtain ⟨piece, hpiece, rfl⟩ := List.mem_map.mp (List.mem_filter.mp hname).1
    rw [String.toList_ofList] at hnull
    exact hs (mem_of_mem_splitAt hpiece hnull)
  rw [← Bool.not_eq_true, Path.holdsNull_iff] at hp ⊢
  rintro ⟨name, hname, hnull⟩
  unfold Path.child Path.join at hname
  split at hname
  · exact htext name hname hnull
  · rcases List.mem_append.mp hname with hname | hname
    · exact hp ⟨name, hname, hnull⟩
    · exact htext name hname hnull

namespace Action

variable {p : Path} {anchor : Anchor} {names : List String}

def IsOsFault (f : Fault) : Prop := f.kind.isOs = true

theorem isOsFault_of_isDirectory {t : Tree} {f : Fault} (h : t.isDirectory p = .error f) :
    IsOsFault f := by
  rcases bind_eq_error.mp h with hentry | ⟨_, _, hpure⟩
  · unfold Tree.entry? at hentry
    split at hentry
    · cases hentry
    · split at hentry
      · cases hentry
      · cases hentry
        rfl
      · cases hentry
  · cases hpure

theorem failOnly_acceptDirectory {kind : OsErrorKind} :
    FailOnly IsOsFault (acceptDirectory p kind) := by
  intro t f u h
  rw [acceptDirectory_run] at h
  split at h
  · cases h
    rfl
  · split at h
    · cases h
    · cases h
      rfl
    · rename_i hdirectory
      cases h
      exact isOsFault_of_isDirectory hdirectory

theorem failOnly_makeDirectory (hp : p.holdsNull = false) :
    FailOnly IsOsFault (makeDirectory p) := by
  intro t f u h
  rw [makeDirectory_run, hp, if_neg Bool.false_ne_true] at h
  split at h <;> cases h

theorem failOnly_makeUp (hnames : (⟨anchor, names.reverse⟩ : Path).holdsNull = false) :
    FailOnly IsOsFault (makeUp anchor names) := by
  induction names with
  | nil =>
    refine (failOnly_makeDirectory hnames).bind fun made => ?_
    cases made with
    | ok => exact failOnly_pure
    | error kind => exact failOnly_acceptDirectory
  | cons name above ih =>
    have habove : (⟨anchor, above.reverse⟩ : Path).holdsNull = false := by
      rw [← Bool.not_eq_true, Path.holdsNull_iff] at hnames ⊢
      rintro ⟨other, hother, hnull⟩
      exact hnames ⟨other, by simpa using .inl (by simpa using hother), hnull⟩
    refine (failOnly_makeDirectory hnames).bind fun made => ?_
    split
    · exact failOnly_pure
    · refine (ih habove).bind fun _ => (failOnly_makeDirectory hnames).bind fun made => ?_
      cases made with
      | ok => exact failOnly_pure
      | error kind => exact failOnly_acceptDirectory
    · exact failOnly_acceptDirectory

theorem failOnly_makeDirectories (hp : p.holdsNull = false) :
    FailOnly IsOsFault (makeDirectories p) :=
  failOnly_makeUp (by rw [List.reverse_reverse]; exact hp)

/-- No directory is made at a path with the null character. -/
theorem makeDirectories_of_holdsNull {t : Tree} (hp : p.holdsNull = true) :
    makeDirectories p t = (.error nullFault, t) := by
  obtain ⟨anchor, names⟩ := p
  unfold makeDirectories
  have hnames : (⟨anchor, names.reverse.reverse⟩ : Path).holdsNull = true := by
    rw [List.reverse_reverse]
    exact hp
  cases hrev : names.reverse with
  | nil =>
    rw [hrev] at hnames
    cases hnames
  | cons name above =>
    rw [hrev] at hnames
    have hmade : makeDirectory ⟨anchor, (name :: above).reverse⟩ t = (.error nullFault, t) := by
      rw [makeDirectory_run, hnames, if_pos rfl]
    simp only [makeUp]
    rw [bind_run, hmade]

theorem holdsNull_of_makeDirectories {t u : Tree} (h : makeDirectories p t = (.ok (), u)) :
    p.holdsNull = false :=
  (Tree.isDirectory_eq_true.mp (isDirectory_of_makeDirectories h)).1

theorem failOnly_writeText {s : String} (hp : p.holdsNull = false) :
    FailOnly IsOsFault (writeText p s) := by
  intro t f u h
  rw [writeText, change_run, hp, if_neg Bool.false_ne_true] at h
  split at h <;> cases h <;> rfl

end Action

end Files

end StructForge
