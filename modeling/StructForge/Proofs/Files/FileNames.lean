import StructForge.Files.Path
import StructForge.Schema.Target

/-! # Where generated files go

The name of a generated file begins with an identifier, so it is one name of a path unless its
suffix holds a separator. Candidates of different names then go to different files. -/

namespace StructForge

open Files Schema

/-- An identifier holds no character that cannot go on in one. -/
theorem not_mem_of_isIdentifier {name : String} {c : Char}
    (h : Text.isIdentifier name = true) (hc : Text.isIdentifierContinue c = false) :
    c ∉ name.toList := by
  intro hmem
  have hall := List.all_eq_true.mp (Text.all_continue_of_spells h) c hmem
  rw [hc] at hall
  cases hall

theorem head_of_isIdentifier {name : String} (h : Text.isIdentifier name = true) :
    ∃ first rest, name.toList = first :: rest ∧ first ≠ '.' := by
  unfold Text.isIdentifier at h
  cases hname : name.toList with
  | nil =>
    rw [hname] at h
    cases h
  | cons first rest =>
    rw [hname, Text.spellsIdentifier, Bool.and_eq_true] at h
    refine ⟨first, rest, rfl, ?_⟩
    rintro rfl
    exact absurd h.1 (by decide)

theorem splitAt_of_not_mem {separator : Char} {cs : List Char} (h : separator ∉ cs) :
    Text.splitAt separator cs = [cs] := by
  induction cs with
  | nil => rfl
  | cons first rest ih =>
    rw [List.mem_cons, not_or] at h
    obtain ⟨hfirst, hrest⟩ := h
    rw [Text.splitAt, if_neg (Ne.symm hfirst), ih hrest]

theorem anchorOf_of_not_mem {cs : List Char} (h : '/' ∉ cs) : anchorOf cs = .here := by
  unfold anchorOf
  split
  · simp at h
  · simp at h
  · simp at h
  · rfl

theorem child_of_not_mem {p : Path} {name : String} (hslash : '/' ∉ name.toList)
    (hempty : name ≠ "") (hdot : name ≠ dot) : p.child name = ⟨p.anchor, p.names ++ [name]⟩ := by
  have htext : Path.ofText name = ⟨.here, [name]⟩ := by
    unfold Path.ofText Text.pieces
    rw [anchorOf_of_not_mem hslash, splitAt_of_not_mem hslash]
    simp [hempty, hdot]
  unfold Path.child Path.join
  rw [htext]
  rfl

theorem locate_append {p : Path} {name : String} {here : Location} (hdots : name ≠ dots) :
    (Files.Path.mk p.anchor (p.names ++ [name])).locate here = p.locate here ++ [name] := by
  simp [Path.locate, Path.isAbsolute, Location.follow, hdots]

theorem locate_child {p : Path} {name : String} {here : Location} (hslash : '/' ∉ name.toList)
    (hempty : name ≠ "") (hdot : name ≠ dot) (hdots : name ≠ dots) :
    (p.child name).locate here = p.locate here ++ [name] := by
  rw [child_of_not_mem hslash hempty hdot, locate_append hdots]

variable {n : Naming} {s s' : Source} {t t' : Target} {p : Path} {here : Location}

theorem fileName_of_target (h : n.target s = .ok t) :
    Text.isIdentifier (n.typePrefix ++ s.name) = true ∧
      t.fileName = n.typePrefix ++ s.name ++ n.fileSuffix := by
  simp only [Naming.target] at h
  split at h
  · rename_i hid
    cases h
    exact ⟨hid, rfl⟩
  · cases h

theorem child_target (hslash : '/' ∉ n.fileSuffix.toList) (h : n.target s = .ok t) :
    p.child t.fileName = ⟨p.anchor, p.names ++ [t.fileName]⟩ ∧ t.fileName ≠ dots := by
  obtain ⟨hid, hname⟩ := fileName_of_target h
  obtain ⟨first, rest, hchars, hfirst⟩ := head_of_isIdentifier hid
  have htext : t.fileName.toList = first :: (rest ++ n.fileSuffix.toList) := by
    rw [hname, String.toList_append, hchars, List.cons_append]
  have hne (other : String) (hother : other.toList.head? ≠ some first) : t.fileName ≠ other := by
    rintro rfl
    rw [htext] at hother
    exact hother rfl
  have hplain : '/' ∉ t.fileName.toList := by
    rw [hname, String.toList_append, List.mem_append]
    rintro (hmem | hmem)
    · exact not_mem_of_isIdentifier hid (by decide) hmem
    · exact hslash hmem
  have hhead (h : some '.' = some first) : False := hfirst (Option.some.inj h).symm
  exact ⟨child_of_not_mem hplain (hne _ (by simp)) (hne _ hhead), hne _ hhead⟩

theorem name_eq_of_fileName_eq (h : n.target s = .ok t) (h' : n.target s' = .ok t')
    (heq : t.fileName = t'.fileName) : s.name = s'.name := by
  rw [(fileName_of_target h).2, (fileName_of_target h').2] at heq
  have hchars := congrArg String.toList heq
  simp only [String.toList_append, List.append_cancel_right_eq,
    List.append_cancel_left_eq] at hchars
  exact String.toList_inj.mp hchars

end StructForge
