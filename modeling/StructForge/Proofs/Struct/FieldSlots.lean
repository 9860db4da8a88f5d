import StructForge.Proofs.Live.Assignment
import StructForge.Proofs.Live.Description
import StructForge.Proofs.Struct.Resolution
import StructForge.Struct.Pairing

/-! # Slots of declared fields

Every retained field of a class has a slot in its struct. What the constructor puts there depends on
the field alone, as long as no name of the generated module is captured. -/

namespace StructForge.Struct

open Live Container Schema

def DeclaresField (r : Registry) (c : ClassRef) (name : String) (h : Hint) : Prop :=
  ∃ hints, r.resolvedHints c = .ok hints ∧ hints.lookup name = some h ∧
    name ∈ r.fieldNames c hints ∧ Registry.isPublic name = true

def Pairing.IsCaptureFree (p : Pairing) (r : Registry) (n : Naming) : Prop :=
  ∃ t fields, Pairing.fields r n (.hint (.cls p.source)) = .ok (t, fields) ∧
    p.model.Resolves t fields

instance (p : Pairing) (r : Registry) (n : Naming) : Decidable (p.IsCaptureFree r n) :=
  decidable_of_iff ((Pairing.fields r n (.hint (.cls p.source))).toOption.any
      fun x => decide (p.model.Resolves x.1 x.2)) <| by
    unfold Pairing.IsCaptureFree
    cases Pairing.fields r n (.hint (.cls p.source)) with
    | error f => simp [Except.toOption]
    | ok x => simp [Except.toOption, Prod.ext_iff]

section Uses

variable {d : Descriptor} {e e' : String} {copy : Copy} {keyCopy : KeyCopy}
  {P : String × Meaning → Prop}

theorem forall_fillUses_array (h : ∀ u ∈ fillUses d (.array e copy), P u) :
    P ("NativeArray", .library .array) ∧ P ("Allocator", .library .allocator) ∧
      (∀ u ∈ typeUses d (.array e copy), P u) ∧ ∀ u ∈ copy.uses, P u := by
  unfold fillUses at h
  rw [List.forall_mem_append, List.forall_mem_append, List.forall_mem_append] at h
  obtain ⟨-, hnames, htypes, hcopy⟩ := h
  exact ⟨hnames _ (by simp), hnames _ (by simp), htypes, hcopy⟩

theorem forall_fillUses_map (h : ∀ u ∈ fillUses d (.map e e' keyCopy copy), P u) :
    P ("NativeHashMap", .library .map) ∧ P ("Allocator", .library .allocator) ∧
      (∀ u ∈ typeUses d (.map e e' keyCopy copy), P u) ∧
      (∀ u ∈ keyCopy.uses, P u) ∧ ∀ u ∈ copy.uses, P u := by
  unfold fillUses at h
  rw [List.forall_mem_append, List.forall_mem_append, List.forall_mem_append,
    List.forall_mem_append] at h
  obtain ⟨-, hnames, htypes, hkey, hcopy⟩ := h
  exact ⟨hnames _ (by simp), hnames _ (by simp), htypes, hkey, hcopy⟩

end Uses

namespace Pairing

variable {r : Registry} {n : Naming} {c : ClassRef} {p : Pairing} {name : String} {h : Hint}

theorem fields_ok {t : Target} {fields : List Descriptor}
    (hfields : Pairing.fields r n (.hint (.cls c)) = .ok (t, fields)) :
    ∃ hints, r.resolvedHints c = .ok hints ∧
      fields = (Source.mk c.label.name c.label.module c.label.qualname
        (r.publicFields c hints)).extract.fields := by
  obtain ⟨source, hsource, htarget⟩ := bind_eq_ok.mp hfields
  obtain ⟨t', -, hpure⟩ := bind_eq_ok.mp htarget
  cases hpure
  obtain ⟨hints, hhints, rfl⟩ := describe_ok (mapError_eq_ok.mp hsource)
  exact ⟨hints, hhints, rfl⟩

theorem exists_start_of_any {v : Value} {P : Pairing → Prop} [DecidablePred P]
    (h : ((Pairing.start r n v).toOption.any fun q => q.any fun p => decide (P p)) = true) :
    ∃ p, Pairing.start r n v = .ok (some p) ∧ P p := by
  obtain ⟨q, hstart, hq⟩ := exists_of_any (x := Pairing.start r n v)
    (p := fun q => (q.any fun p => decide (P p)) = true) (by simpa using h)
  obtain ⟨p, rfl, hp⟩ := (Option.any_eq_true _ _).mp hq
  exact ⟨p, hstart, of_decide_eq_true hp⟩

theorem start_ok (hstart : Pairing.start r n (.hint (.cls c)) = .ok (some p)) :
    p.source = c ∧ Scope.load r p.model = .ok p.scope ∧
      ∃ t fields, Pairing.fields r n (.hint (.cls c)) = .ok (t, fields) ∧
        StructModel.build t fields = .ok p.model := by
  obtain ⟨⟨t, fields⟩, hfields, hrest⟩ := bind_eq_ok.mp hstart
  simp only at hrest
  split at hrest
  · cases hrest
  · rename_i hvalue
    cases hvalue
    obtain ⟨m, hbuild, hrest⟩ := bind_eq_ok.mp hrest
    obtain ⟨s, hload, hpure⟩ := bind_eq_ok.mp hrest
    cases hpure
    exact ⟨rfl, hload, t, fields, hfields, mapError_eq_ok.mp hbuild⟩
  · cases hrest

theorem exists_slot (hstart : Pairing.start r n (.hint (.cls c)) = .ok (some p))
    (hfield : DeclaresField r c name h) (hclassify : (classify (h.describe r)).isSome = true) :
    ∃ slot ∈ p.model.slots, slot.name = name := by
  obtain ⟨-, -, t, fields, hfields, hbuild⟩ := start_ok hstart
  obtain ⟨hints, hhints, rfl⟩ := fields_ok hfields
  obtain ⟨hints', hhints', hlookup, hname, hpublic⟩ := hfield
  rw [hhints] at hhints'
  cases hhints'
  obtain ⟨category, hcategory⟩ := Option.isSome_iff_exists.mp hclassify
  obtain ⟨i, hbuilt⟩ := StructModel.build_ok hbuild
  set f : Field := ⟨name, h.describe r⟩
  have hpublicField : f ∈ r.publicFields c hints :=
    mem_publicFields.mpr ⟨hname, hpublic, h, hlookup, rfl⟩
  have hmem : f.describe category ∈ (Source.mk c.label.name c.label.module c.label.qualname
      (r.publicFields c hints)).extract.fields :=
    mem_extract.mpr ⟨f, hpublicField, hcategory, rfl⟩
  obtain ⟨slot, hpair⟩ := exists_mem_zip_left hbuilt.slots hmem
  exact ⟨slot, (List.of_mem_zip hpair).2, (List.forall₂_zip hbuilt.slots hpair).name⟩

/-- The attributes that the methods ask for are those that are written where nothing is captured. -/
theorem keepsAttributes (hfree : p.IsCaptureFree r n) : p.model.KeepsAttributes := by
  obtain ⟨t, fields, -, -, hkeeps⟩ := hfree
  exact hkeeps

/-- A slot is made from the field with its name, and the names with which it is filled stand for
what is meant by them. -/
theorem slot_of_field (hstart : Pairing.start r n (.hint (.cls c)) = .ok (some p))
    (hfree : p.IsCaptureFree r n) (hfield : DeclaresField r c name h) {slot : Slot}
    (hslot : slot ∈ p.model.slots) (hname : slot.name = name) :
    ∃ i asked d, Imports.IsSound asked i ∧ d.type = h.describe r ∧
      classify d.type = some d.category ∧ ContentOf i d slot.content ∧
      ∀ u ∈ fillUses d slot.content,
        p.model.meaning (.body p.model.constructorVariables) u.1 = u.2 := by
  obtain ⟨rfl, -, t, fields, hfields, hbuild⟩ := start_ok hstart
  obtain ⟨t', fields', hfields', hresolves, -⟩ := hfree
  rw [hfields] at hfields'
  cases hfields'
  obtain ⟨hints, hhints, rfl⟩ := fields_ok hfields
  obtain ⟨hints', hhints', hlookup, -⟩ := hfield
  rw [hhints] at hhints'
  cases hhints'
  obtain ⟨i, hbuilt⟩ := StructModel.build_ok hbuild
  obtain ⟨d, hpair⟩ := exists_mem_zip_right hbuilt.slots hslot
  have hof := List.forall₂_zip hbuilt.slots hpair
  obtain ⟨f, hf, hclassify, hd⟩ := mem_extract.mp (List.of_mem_zip hpair).1
  obtain ⟨-, -, h', hlookup', htype⟩ := mem_publicFields.mp hf
  have hdname : d.name = f.name := by rw [hd]; rfl
  have hdtype : d.type = f.type := by rw [hd]; rfl
  have hfname : f.name = name := hdname.symm.trans (hof.name.symm.trans hname)
  rw [hfname, hlookup] at hlookup'
  cases hlookup'
  rw [← hdtype] at hclassify htype
  refine ⟨i, _, d, hbuilt.sound, htype, hclassify, hof.content, fun u hu => ?_⟩
  refine hresolves ⟨.body p.model.constructorVariables, u.1, u.2⟩ (List.mem_append_right _ ?_)
  exact List.mem_flatMap.mpr ⟨(d, slot), hpair,
    List.mem_append_left _ (List.mem_map.mpr ⟨u, hu, rfl⟩)⟩

end Pairing

namespace Record

variable {m : StructModel} {s : Scope} {source : String → Except Fault Held} {name : String}
  {slots : List Slot} {slot : Slot} {entry : String × Part} {entries : List (String × Part)}
  {part : Part}

theorem convert_eq_bind : Record.convert m s source =
    m.slots.mapM (convertSlot m s source) >>= fun entries => .ok (ofParts m entries) := rfl

theorem convertSlot_ok : convertSlot m s source slot = .ok entry ↔
    entry.1 = m.read slot.name ∧ slot.content.convert s (source (m.read slot.name))
      (checkName m (m.read slot.name)) = .ok entry.2 := by
  unfold convertSlot
  rw [bind_eq_ok]
  constructor
  · rintro ⟨part, hpart, hpure⟩
    cases hpure
    exact ⟨rfl, hpart⟩
  · rintro ⟨hname, hpart⟩
    exact ⟨entry.2, hpart, pure_eq_ok.mpr (Prod.ext hname.symm rfl)⟩

theorem zeroSlot_ok : zeroSlot m s slot = .ok entry ↔
    entry.1 = m.read slot.name ∧ slot.content.zero s = .ok entry.2 ∧
      checkName m (m.read slot.name) entry.2.typeName = .ok () := by
  unfold zeroSlot
  rw [bind_eq_ok]
  constructor
  · rintro ⟨part, hpart, hrest⟩
    obtain ⟨⟨⟩, hcheck, hpure⟩ := bind_eq_ok.mp hrest
    cases hpure
    exact ⟨rfl, hpart, hcheck⟩
  · rintro ⟨hname, hpart, hcheck⟩
    exact ⟨entry.2, hpart, bind_eq_ok.mpr ⟨_, hcheck, pure_eq_ok.mpr (Prod.ext hname.symm rfl)⟩⟩

theorem checkName_eq_ok (hslot : slot ∈ m.slots) (hread : m.read slot.name = slot.name)
    (typeName : String) : checkName m slot.name typeName = .ok () := by
  have hmem : slot.name ∈ m.slotNames :=
    List.mem_map.mpr ⟨slot, hslot, Text.ownedBy_of_readIn hread⟩
  unfold checkName checkSlot ofParts
  rw [if_pos (List.contains_iff_mem.mpr hmem)]

theorem part_eq_ok {r : Record} : r.part name = .ok part ↔ r.parts.lookup name = some part := by
  unfold Record.part
  cases r.parts.lookup name with
  | none => simp
  | some p => simp

theorem part_ofParts : (ofParts m entries).part name = .ok part ↔
    latest? entries name = some part := by
  rw [part_eq_ok, ← lookup_assignAll]
  rfl

section Making

variable {give : Slot → Except Fault (String × Part)}

/-- A struct made slot by slot holds under the name of a slot what some slot with that name is
given. -/
theorem part_of_mapM (h : slots.mapM give = .ok entries)
    (hname : ∀ slot ∈ slots, ∀ entry, give slot = .ok entry → entry.1 = m.read slot.name)
    (hslot : ∃ slot ∈ slots, m.read slot.name = name) :
    ∃ slot ∈ slots, m.read slot.name = name ∧ ∃ part,
      give slot = .ok (name, part) ∧ (ofParts m entries).part name = .ok part := by
  have hall := mapM_eq_ok.mp h
  obtain ⟨slot, hslot, rfl⟩ := hslot
  obtain ⟨entry, hpair⟩ := exists_mem_zip_left hall hslot
  have hlatest : ∃ part, latest? entries (m.read slot.name) = some part := by
    apply Option.isSome_iff_exists.mp
    apply List.lookup_isSome_iff.mpr
    refine ⟨entry, List.mem_reverse.mpr (List.of_mem_zip hpair).2, ?_⟩
    rw [hname _ hslot _ (List.forall₂_zip hall hpair)]
    exact beq_self_eq_true _
  obtain ⟨part, hlatest⟩ := hlatest
  have hmem := List.mem_reverse.mp (mem_of_lookup hlatest)
  obtain ⟨slot', hpair'⟩ := exists_mem_zip_right hall hmem
  have hgive := List.forall₂_zip hall hpair'
  have hslot' := (List.of_mem_zip hpair').1
  exact ⟨slot', hslot', (hname _ hslot' _ hgive).symm, part, hgive,
    part_ofParts.mpr hlatest⟩

end Making

end Record

/-- The outcome of a field in the constructor: there is a slot for it, the constructed struct holds
the outcome under its name, and the constructor fails as the field does when no other slot fails. -/
structure Pairing.Fills (p : Pairing) (source : String → Except Fault Held) (name : String)
    (outcome : Except Fault Part) : Prop where
  slot : ∃ slot ∈ p.model.slots, slot.name = name
  part : ∀ record, Record.convert p.model p.scope source = .ok record →
    ∃ part, outcome = .ok part ∧ record.part name = .ok part
  error : (∀ slot ∈ p.model.slots, slot.name ≠ name →
      ∃ entry, Record.convertSlot p.model p.scope source slot = .ok entry) →
    ∀ f, Record.convert p.model p.scope source = .error f ↔ outcome = .error f

theorem Pairing.Fills.eq_error {p : Pairing} {source : String → Except Fault Held} {name : String}
    {outcome : Except Fault Part} {f : Fault} (h : p.Fills source name outcome)
    (honly : ∀ slot ∈ p.model.slots, slot.name = name)
    (hconvert : Record.convert p.model p.scope source = .error f) : outcome = .error f :=
  (h.error (fun slot hslot hne => absurd (honly slot hslot) hne) f).mp hconvert

theorem Record.convertSlot_eq_bind {m : StructModel} {s : Scope}
    {source : String → Except Fault Held} {slot : Slot} (hslot : slot ∈ m.slots)
    (hread : m.read slot.name = slot.name) :
    convertSlot m s source slot =
      slot.content.convert s (source slot.name) (fun _ => .ok ()) >>= fun part =>
        .ok (slot.name, part) := by
  have hcheck : checkName m slot.name = fun _ => .ok () := funext (checkName_eq_ok hslot hread)
  unfold convertSlot
  simp only [hread, hcheck]
  rfl

theorem Pairing.fills_of_slots {p : Pairing} {source : String → Except Fault Held} {name : String}
    {outcome : Except Fault Part} (hkeeps : p.model.KeepsAttributes)
    (hslot : ∃ slot ∈ p.model.slots, slot.name = name)
    (hconvert : ∀ slot ∈ p.model.slots, slot.name = name →
      slot.content.convert p.scope (source name) (fun _ => .ok ()) = outcome) :
    p.Fills source name outcome := by
  have hread : ∀ slot ∈ p.model.slots, p.model.read slot.name = slot.name := fun slot hslot =>
    (hkeeps.2 slot hslot).1
  have hfilled : ∀ slot ∈ p.model.slots, slot.name = name →
      Record.convertSlot p.model p.scope source slot = outcome >>= fun part => .ok (name, part) := by
    rintro slot hmem rfl
    rw [Record.convertSlot_eq_bind hmem (hread slot hmem), hconvert slot hmem rfl]
  refine ⟨hslot, fun record hrecord => ?_, fun hothers f => ?_⟩
  · rw [Record.convert_eq_bind] at hrecord
    obtain ⟨entries, hentries, hpure⟩ := bind_eq_ok.mp hrecord
    cases hpure
    obtain ⟨slot, hmem, hname⟩ := hslot
    have hasked : p.model.read slot.name = name := (hread slot hmem).trans hname
    obtain ⟨slot', hmem', hname', part, hgive, hpart⟩ := Record.part_of_mapM (m := p.model) hentries
      (fun _ _ _ h => (Record.convertSlot_ok.mp h).1) ⟨slot, hmem, hasked⟩
    rw [hfilled slot' hmem' ((hread slot' hmem').symm.trans hname')] at hgive
    obtain ⟨part', houtcome, hpure⟩ := bind_eq_ok.mp hgive
    cases hpure
    exact ⟨part, houtcome, hpart⟩
  · rw [Record.convert_eq_bind]
    cases outcome with
    | ok part =>
      have hall : ∀ slot ∈ p.model.slots,
          ∃ entry, Record.convertSlot p.model p.scope source slot = .ok entry := by
        intro slot hmem
        by_cases hname : slot.name = name
        · exact ⟨_, hfilled slot hmem hname⟩
        · exact hothers slot hmem hname
      obtain ⟨entries, hentries⟩ := exists_mapM_eq_ok hall
      rw [hentries]
      constructor <;> (intro h; cases h)
    | error g =>
      obtain ⟨slot, hmem, hname⟩ := hslot
      have hall : ∀ slot ∈ p.model.slots,
          (∃ entry, Record.convertSlot p.model p.scope source slot = .ok entry) ∨
            ∃ e, Record.convertSlot p.model p.scope source slot = .error e ∧ e = g := by
        intro other hmem'
        by_cases hname' : other.name = name
        · exact .inr ⟨g, hfilled other hmem' hname', rfl⟩
        · exact .inl (hothers other hmem' hname')
      obtain ⟨e, hmapM, rfl⟩ := exists_mapM_eq_error hall ⟨slot, hmem, g, hfilled slot hmem hname⟩
      rw [hmapM]
      change (Except.error e : Except Fault Record) = .error f ↔ _
      rw [Except.error.injEq, Except.error.injEq]

end StructForge.Struct
