import Mathlib.Data.List.Induction
import StructForge.Discovery.Found

/-! # Classes that are met more than once

Of the classes with the same key only the first one counts. So classes that were met before can be
added to a list or left out. -/

namespace StructForge.Discovery

open Live

/-! ## First meetings -/

/-- The classes of a list without those that have the key of an earlier one. -/
inductive Firsts : List ClassRef → List ClassRef → Prop
  | nil : Firsts [] []
  | new {met firsts : List ClassRef} {c : ClassRef} (h : Firsts met firsts)
      (hnew : classKey c ∉ met.map classKey) : Firsts (met ++ [c]) (firsts ++ [c])
  | again {met firsts : List ClassRef} {c : ClassRef} (h : Firsts met firsts)
      (hmet : classKey c ∈ met.map classKey) : Firsts (met ++ [c]) firsts

section Firsts

variable {cs cs' ds firsts : List ClassRef} {met met' : List (String × String)} {c : ClassRef}

theorem Firsts.subset (h : Firsts cs firsts) : firsts ⊆ cs := by
  induction h with
  | nil => exact List.nil_subset _
  | new _ _ ih =>
    rw [List.append_subset]
    exact ⟨List.Subset.trans ih (List.subset_append_left ..), List.subset_append_right ..⟩
  | again _ _ ih => exact List.Subset.trans ih (List.subset_append_left ..)

theorem Firsts.nodup (h : Firsts cs firsts) : (firsts.map classKey).Nodup := by
  induction h with
  | nil => exact List.nodup_nil
  | @new met firsts c h hnew ih =>
    rw [List.map_append, List.nodup_append]
    refine ⟨ih, by simp, ?_⟩
    intro key hkey other hother heq
    rw [heq] at hkey
    rw [List.map_singleton, List.mem_singleton] at hother
    exact hnew (hother ▸ List.map_subset _ h.subset hkey)
  | again _ _ ih => exact ih

theorem firstOnly_congr (h : ∀ key, key ∈ met ↔ key ∈ met') :
    firstOnly met cs = firstOnly met' cs := by
  induction cs generalizing met met' with
  | nil => rfl
  | cons c cs ih =>
    unfold firstOnly
    simp only [List.contains_iff_mem, h]
    split
    · exact ih h
    · congr 1
      exact ih fun key => by simp only [List.mem_cons, h]

theorem firstOnly_append :
    firstOnly met (cs ++ ds) = firstOnly met cs ++ firstOnly (met ++ cs.map classKey) ds := by
  induction cs generalizing met with
  | nil => simp [firstOnly]
  | cons c cs ih =>
    simp only [List.cons_append, firstOnly, List.contains_iff_mem]
    split
    · rw [ih]
      congr 1
      exact firstOnly_congr fun key => by simp; grind
    · rw [ih, List.cons_append]
      congr 2
      exact firstOnly_congr fun key => by simp; grind

theorem firstOnly_eq_nil (h : cs.map classKey ⊆ met) : firstOnly met cs = [] := by
  induction cs with
  | nil => rfl
  | cons c cs ih =>
    rw [List.map_cons, List.cons_subset] at h
    rw [firstOnly, if_pos (List.contains_iff_mem.mpr h.1), ih h.2]

theorem firsts_firstOnly : Firsts cs (firstOnly [] cs) := by
  induction cs using List.reverseRecOn with
  | nil => exact .nil
  | append_singleton cs c ih =>
    rw [firstOnly_append]
    by_cases hmet : classKey c ∈ cs.map classKey
    · have hnil : firstOnly ([] ++ cs.map classKey) [c] = [] :=
        firstOnly_eq_nil (List.cons_subset.mpr ⟨hmet, List.nil_subset _⟩)
      rw [hnil, List.append_nil]
      exact .again ih hmet
    · have hnew : firstOnly ([] ++ cs.map classKey) [c] = [c] := by
        simpa [firstOnly] using hmet
      rw [hnew]
      exact .new ih hmet

end Firsts

/-! ## Lists that are met alike -/

/-- Lists of the same classes in the order of their first meetings, after whatever was met. -/
structure MetAlike (cs cs' : List ClassRef) : Prop where
  firsts : ∀ met, firstOnly met cs' = firstOnly met cs
  keys : ∀ key, key ∈ cs'.map classKey ↔ key ∈ cs.map classKey

namespace MetAlike

variable {cs cs' ds ds' again : List ClassRef}

theorem refl (cs : List ClassRef) : MetAlike cs cs := ⟨fun _ => rfl, fun _ => Iff.rfl⟩

theorem append (h : MetAlike cs cs') (hd : MetAlike ds ds') : MetAlike (cs ++ ds) (cs' ++ ds') := by
  refine ⟨fun met => ?_, fun key => ?_⟩
  · rw [firstOnly_append, firstOnly_append, h.firsts, hd.firsts]
    congr 1
    exact firstOnly_congr fun key => by simp only [List.mem_append, h.keys]
  · simp only [List.map_append, List.mem_append, h.keys, hd.keys]

theorem insert (h : again.map classKey ⊆ cs.map classKey) :
    MetAlike (cs ++ ds) (cs ++ (again ++ ds)) := by
  refine ⟨fun met => ?_, fun key => ?_⟩
  · have hnil : firstOnly (met ++ cs.map classKey) again = [] :=
      firstOnly_eq_nil (List.Subset.trans h (List.subset_append_right ..))
    rw [firstOnly_append, firstOnly_append, firstOnly_append, hnil, List.nil_append]
    congr 1
    exact firstOnly_congr fun key => by have := @h key; simp only [List.mem_append]; tauto
  · have := @h key
    simp only [List.map_append, List.mem_append]
    tauto

theorem insert_mem {c : ClassRef} (h : c ∈ cs) : MetAlike (cs ++ ds) (cs ++ c :: ds) := by
  have hagain : [c].map classKey ⊆ cs.map classKey :=
    List.map_subset _ (List.cons_subset.mpr ⟨h, List.nil_subset _⟩)
  exact insert hagain

end MetAlike

end StructForge.Discovery
