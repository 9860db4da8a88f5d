import StructForge.Proofs.Container.OrderedMap

/-! # Capacity of maps

A map never holds more entries than its capacity. The capacity stays as it is until a full map takes
an entry, and doubles then, so it is less than twice the most entries that the map has held. Nothing
that takes entries away makes it smaller. -/

namespace StructForge.Container

open Live

/-! ## Whole numbers as capacities -/

section Numbers

variable {v : Value} {c n : Nat}

theorem fills_of_wholeNumber (h : v.wholeNumber? = some (c : Int)) :
    fills n v = decide (c ≤ n) := by
  unfold fills
  rw [Value.numeric?_of_wholeNumber h]
  simp

theorem twice_of_wholeNumber (h : v.wholeNumber? = some (c : Int)) :
    twice v = .int (2 * (c : Int)) := by
  unfold Value.wholeNumber? at h
  split at h
  · rw [← Option.some.inj h]
    rfl
  · rw [← Option.some.inj h]
    rfl
  · split at h
    · rw [← Option.some.inj h]
      rfl
    · cases h
  · cases h

theorem grown_of_wholeNumber (h : v.wholeNumber? = some (c : Int)) :
    grown v = .int ((max 1 (2 * c) : Nat) : Int) := by
  unfold grown
  rw [twice_of_wholeNumber h]
  by_cases hc : 1 < (2 * (c : Int))
  · have hmax : max 1 (2 * c) = 2 * c := by omega
    simp [exceedsOne, Value.numeric?, hc, hmax]
  · have hmax : max 1 (2 * c) = 1 := by omega
    simp [exceedsOne, Value.numeric?, hc, hmax]

end Numbers

namespace GrowingMap

variable {κ : Type} [Key κ]

/-! ## One call -/

/-- The number of entries of a map, none without storage. -/
def count (m : GrowingMap κ) : Nat := (m.entries.getD []).length

/-- What a call makes of the entries and the capacity of a map that has entries. -/
inductive Resizes (m m' : GrowingMap κ) : Prop
  | released (hentries : m'.isCreated = false)
  | kept (hcreated : m'.isCreated = true) (hcount : m'.count ≤ m.count)
      (hcapacity : m'.capacity = m.capacity)
  | filled (hcreated : m'.isCreated = true) (hcount : m'.count = m.count + 1)
      (hroom : fills m.count m.capacity = false) (hcapacity : m'.capacity = m.capacity)
  | grown (hcreated : m'.isCreated = true) (hcount : m'.count = m.count + 1)
      (hfull : fills m.count m.capacity = true)
      (hcapacity : m'.capacity = Container.grown m.capacity)

section Calls

variable {m m' : GrowingMap κ} {call : MapCall κ} {calls more : List (MapCall κ)} {k : κ}
  {v : Value} {reply : MapReply κ} {es : Entries κ} {added : Bool}

omit [Key κ] in
theorem require_of_entries (hentries : m.entries = some es) : m.require = .ok es := by
  unfold require
  rw [hentries]

omit [Key κ] in
theorem resizes_refl (hentries : m.entries = some es) : m.Resizes m :=
  .kept (Option.isSome_iff_exists.mpr ⟨es, hentries⟩) le_rfl rfl

theorem resizes_of_tryAdd (hentries : m.entries = some es) (h : m.tryAdd k v = .ok (m', added)) :
    m.Resizes m' := by
  have hcount : m.count = es.length := by simp [count, hentries]
  obtain ⟨es', hes', h⟩ := bind_eq_ok.mp h
  rw [require_of_entries hentries] at hes'
  cases hes'
  obtain ⟨_, -, h⟩ := bind_eq_ok.mp h
  split at h
  · cases h
    exact resizes_refl hentries
  · cases h
    cases hfills : fills es.length m.capacity with
    | true =>
      refine .grown rfl ?_ (hcount ▸ hfills) ?_
      · simp [count, hentries]
      · rfl
    | false =>
      refine .filled rfl ?_ (hcount ▸ hfills) ?_
      · simp [count, hentries]
      · rfl

theorem resizes_of_add (hentries : m.entries = some es) (h : m.add k v = .ok m') :
    m.Resizes m' := by
  obtain ⟨⟨next, added⟩, hadd, h⟩ := bind_eq_ok.mp h
  cases added with
  | true =>
    cases h
    exact resizes_of_tryAdd hentries hadd
  | false => cases h

theorem resizes_of_remove (hentries : m.entries = some es) (h : m.remove k = .ok (m', added)) :
    m.Resizes m' := by
  unfold remove at h
  rw [require_of_entries hentries] at h
  change (if es.isEmpty then _ else _) = _ at h
  split at h
  · cases h
    exact resizes_refl hentries
  · obtain ⟨_, -, h⟩ := bind_eq_ok.mp h
    split at h
    · cases h
      refine .kept rfl ?_ rfl
      simpa [count, hentries] using List.length_eraseP_le
    · cases h
      exact resizes_refl hentries

/-- A call that is no addition, removal or release leaves the map as it is. -/
theorem resizes_of_run (hentries : m.entries = some es) (h : m.run call = .ok (m', reply)) :
    m.Resizes m' := by
  cases call with
  | add k v =>
    obtain ⟨next, hadd, h⟩ := bind_eq_ok.mp h
    cases h
    exact resizes_of_add hentries hadd
  | tryAdd k v =>
    obtain ⟨⟨next, added⟩, hadd, h⟩ := bind_eq_ok.mp h
    cases h
    exact resizes_of_tryAdd hentries hadd
  | remove k =>
    obtain ⟨⟨next, removed⟩, hremove, h⟩ := bind_eq_ok.mp h
    cases h
    exact resizes_of_remove hentries hremove
  | clear =>
    obtain ⟨next, hclear, h⟩ := bind_eq_ok.mp h
    cases h
    obtain ⟨_, -, hpure⟩ := bind_eq_ok.mp hclear
    cases hpure
    exact .kept rfl (Nat.zero_le _) rfl
  | dispose =>
    obtain ⟨next, hdispose, h⟩ := bind_eq_ok.mp h
    cases h
    obtain ⟨_, -, hpure⟩ := bind_eq_ok.mp hdispose
    cases hpure
    exact .released rfl
  | isCreated | shown =>
    cases h
    exact resizes_refl hentries
  | getD | get | contains | entries | keys | values | size | capacity =>
    obtain ⟨_, -, h⟩ := bind_eq_ok.mp h
    cases h
    exact resizes_refl hentries

theorem resizes_of_answer (hcreated : m.isCreated = true) : m.Resizes (m.answer call).1 := by
  obtain ⟨es, hentries⟩ := Option.isSome_iff_exists.mp hcreated
  unfold answer
  split
  · exact resizes_of_run hentries ‹_›
  · exact resizes_refl hentries

theorem isCreated_of_answers (h : (m.answers calls).1.isCreated = true) : m.isCreated = true := by
  induction calls generalizing m with
  | nil => exact h
  | cons call calls ih =>
    have hnext : (m.answer call).1.isCreated = true := ih h
    unfold answer at hnext
    split at hnext
    · exact isCreated_of_run ‹_› hnext
    · exact hnext

theorem answers_append : (m.answers (calls ++ more)).1 = ((m.answers calls).1.answers more).1 := by
  induction calls generalizing m with
  | nil => rfl
  | cons call calls ih => exact ih

end Calls

/-! ## Runs of calls -/

/-- The most entries that a map holds while calls are made, from the first moment to the last. -/
def peak (m : GrowingMap κ) : List (MapCall κ) → Nat
  | [] => m.count
  | call :: calls => max m.count ((m.answer call).1.peak calls)

/-- Whether a map has a capacity that it can have come to from another one, when it has held no more
entries than a number. -/
structure IsSized (c₀ peak : Nat) (m : GrowingMap κ) (c : Nat) : Prop where
  capacity : m.capacity.wholeNumber? = some (c : Int)
  room : m.count ≤ c
  power : c = c₀ ∨ ∃ k, c = max 1 c₀ * 2 ^ k
  tight : c ≠ c₀ → c < 2 * peak

section Runs

variable {m m' : GrowingMap κ} {call : MapCall κ} {calls more : List (MapCall κ)} {k : κ}
  {v key value capacity : Value} {es : Entries κ} {c₀ c peak : Nat} {a : Allocator}

omit [Key κ] in
theorem IsSized.mono {peak' : Nat} (h : m.IsSized c₀ peak c) (hle : peak ≤ peak') :
    m.IsSized c₀ peak' c :=
  ⟨h.capacity, h.room, h.power, fun hne => (h.tight hne).trans_le (Nat.mul_le_mul_left 2 hle)⟩

/-- A power of two times a number that is not zero stays one when it is doubled. -/
theorem exists_power_of_double (h : c = c₀ ∨ ∃ k, c = max 1 c₀ * 2 ^ k) :
    ∃ k, max 1 (2 * c) = max 1 c₀ * 2 ^ k := by
  rcases h with rfl | ⟨k, rfl⟩
  · rcases Nat.eq_zero_or_pos c with rfl | hpos
    · exact ⟨0, rfl⟩
    · refine ⟨1, ?_⟩
      omega
  · refine ⟨k + 1, ?_⟩
    have hpos : 0 < max 1 c₀ * 2 ^ k := by positivity
    have hdouble : max 1 c₀ * 2 ^ (k + 1) = 2 * (max 1 c₀ * 2 ^ k) := by ring
    omega

omit [Key κ] in
/-- A call keeps the capacity, or doubles it if the map is full. -/
theorem IsSized.step (h : m.IsSized c₀ peak c) (hsteps : m.Resizes m')
    (hcreated : m'.isCreated = true) : ∃ c', m'.IsSized c₀ (max peak m'.count) c' ∧ c ≤ c' := by
  cases hsteps with
  | released hreleased =>
    rw [hreleased] at hcreated
    cases hcreated
  | kept _ hcount hcapacity =>
    have hsized : m'.IsSized c₀ peak c :=
      ⟨hcapacity ▸ h.capacity, hcount.trans h.room, h.power, h.tight⟩
    exact ⟨c, hsized.mono (le_max_left ..), le_rfl⟩
  | filled _ hcount hroom hcapacity =>
    rw [fills_of_wholeNumber h.capacity, decide_eq_false_iff_not] at hroom
    have hsized : m'.IsSized c₀ peak c :=
      ⟨hcapacity ▸ h.capacity, by omega, h.power, h.tight⟩
    exact ⟨c, hsized.mono (le_max_left ..), le_rfl⟩
  | grown _ hcount hfull hcapacity =>
    rw [fills_of_wholeNumber h.capacity, decide_eq_true_iff] at hfull
    have hroom := h.room
    refine ⟨max 1 (2 * c), ⟨?_, by omega, .inr (exists_power_of_double h.power), fun _ => ?_⟩,
      by omega⟩
    · rw [hcapacity, grown_of_wholeNumber h.capacity]
      rfl
    · have hpeak : m'.count ≤ max peak m'.count := le_max_right ..
      omega

theorem count_le_peak : m.count ≤ m.peak calls := by
  cases calls with
  | nil => exact le_rfl
  | cons => exact le_max_left ..

theorem IsSized.run (h : m.IsSized c₀ peak c) (hcreated : (m.answers calls).1.isCreated = true) :
    ∃ c', (m.answers calls).1.IsSized c₀ (max peak (m.peak calls)) c' ∧ c ≤ c' := by
  induction calls generalizing m peak c with
  | nil => exact ⟨c, h.mono (le_max_left ..), le_rfl⟩
  | cons call calls ih =>
    have hnext : (m.answer call).1.isCreated = true := isCreated_of_answers hcreated
    have hfirst : m.isCreated = true := isCreated_of_answers
      (show (m.answers (call :: calls)).1.isCreated = true from hcreated)
    obtain ⟨c₁, hstep, hle₁⟩ := h.step (resizes_of_answer hfirst) hnext
    obtain ⟨c₂, hrun, hle₂⟩ := ih hstep hcreated
    refine ⟨c₂, hrun.mono ?_, hle₁.trans hle₂⟩
    have hpeak : (m.answer call).1.count ≤ (m.answer call).1.peak calls := count_le_peak
    simp only [GrowingMap.peak]
    omega

omit [Key κ] in
/-- A capacity that is not the first one is greater, and so were the entries at some moment. -/
theorem IsSized.eq_of_peak_le (h : m.IsSized c₀ peak c) (hpeak : peak ≤ c₀) : c = c₀ := by
  by_contra hne
  have hlt := h.tight hne
  rcases h.power with heq | ⟨k, hk⟩
  · exact hne heq
  cases k with
  | zero => omega
  | succ k =>
    have hpos : 0 < 2 ^ k := by positivity
    have hle : max 1 c₀ * 2 ≤ max 1 c₀ * 2 ^ (k + 1) := by
      rw [pow_succ]
      exact Nat.mul_le_mul_left _ (by omega)
    omega

omit [Key κ] in
theorem isSized_of_create (hcapacity : capacity.wholeNumber? = some (c₀ : Int)) :
    IsSized c₀ 0 (⟨key, value, a, capacity, some []⟩ : GrowingMap κ) c₀ :=
  ⟨hcapacity, Nat.zero_le _, .inl rfl, fun hne => absurd rfl hne⟩

theorem isCapacity_of_wholeNumber (h : capacity.wholeNumber? = some (c₀ : Int)) :
    IsCapacity capacity :=
  ⟨_, _, Value.numeric?_of_wholeNumber h, rfl, Nat.cast_nonneg c₀⟩

/-- What is known of the capacity of a map that has storage after some calls: its entries have room
in it, it is the first one or a power of two times it, and less than twice the most entries held so
far once it has grown. It has grown only if there were more entries than fit into the first one, no
later call makes it smaller, and an entry whose key is there leaves the whole map as it is. -/
structure HoldsWithin (m : GrowingMap κ) (c₀ : Nat) (calls : List (MapCall κ)) (n c : Nat) :
    Prop where
  size : (m.answers calls).1.size = .ok n
  capacity : ∃ v, (m.answers calls).1.capacity? = .ok v ∧ v.wholeNumber? = some (c : Int)
  room : n ≤ c
  power : c = c₀ ∨ ∃ k, c = max 1 c₀ * 2 ^ k
  tight : c ≠ c₀ → c < 2 * m.peak calls
  steady : m.peak calls ≤ c₀ → c = c₀
  lasting : ∀ more, (m.answers (calls ++ more)).1.isCreated = true →
    ∃ v c', (m.answers (calls ++ more)).1.capacity? = .ok v ∧
      v.wholeNumber? = some (Int.ofNat c') ∧ c ≤ c'
  refusing : ∀ k v, (m.answers calls).1.contains k = .ok true →
    (m.answers calls).1.answer (.tryAdd k v) = ((m.answers calls).1, .ok (.truth false)) ∧
    (m.answers calls).1.answer (.add k v) =
      ((m.answers calls).1, .error (duplicateFault k))

omit [Key κ] in
theorem IsSized.capacity?_eq (h : m.IsSized c₀ peak c) (hcreated : m.isCreated = true) :
    ∃ v, m.capacity? = .ok v ∧ v.wholeNumber? = some (c : Int) := by
  obtain ⟨es, hentries⟩ := Option.isSome_iff_exists.mp hcreated
  refine ⟨m.capacity, ?_, h.capacity⟩
  exact bind_eq_ok.mpr ⟨es, require_of_entries hentries, rfl⟩

omit [Key κ] in
theorem size_eq_count (hcreated : m.isCreated = true) : m.size = .ok m.count := by
  obtain ⟨es, hentries⟩ := Option.isSome_iff_exists.mp hcreated
  refine bind_eq_ok.mpr ⟨es, require_of_entries hentries, ?_⟩
  simp [count, hentries, pure, Except.pure]

theorem answer_of_contains (h : m.contains k = .ok true) :
    m.answer (.tryAdd k v) = (m, .ok (.truth false)) ∧
      m.answer (.add k v) = (m, .error (duplicateFault k)) := by
  obtain ⟨es, hes, h⟩ := bind_eq_ok.mp h
  obtain ⟨_, hkey, hpure⟩ := bind_eq_ok.mp h
  have hlists : hasKey es k = true := pure_eq_ok.mp hpure
  have hentries : m.entries = some es := by
    unfold require at hes
    split at hes
    · cases hes
      assumption
    · cases hes
  have hunhashable : Key.unhashable? k = none := by
    unfold checkKey at hkey
    split at hkey
    · cases hkey
    · assumption
  have htry : m.tryAdd k v = .ok (m, false) := by
    rw [tryAdd_eq hentries hunhashable, if_pos hlists]
  constructor
  · refine answer_ok ?_
    exact bind_eq_ok.mpr ⟨_, htry, rfl⟩
  · refine answer_error ?_
    exact bind_eq_error.mpr (.inl (add_duplicate hentries hunhashable hlists))

/-- After any calls a map that still has storage holds its entries within a capacity that its first
one and the most entries held so far allow. -/
theorem capacity_of_create (key value : Value) (hcapacity : capacity.wholeNumber? = some (c₀ : Int))
    (hreal : a ≠ .none) : ∃ m : GrowingMap κ, create key value capacity (.allocator a) = .ok m ∧
      ∀ calls, (m.answers calls).1.isCreated = true → ∃ n c, m.HoldsWithin c₀ calls n c := by
  refine ⟨(⟨key, value, a, capacity, some []⟩ : GrowingMap κ), ?_, fun calls hcreated => ?_⟩
  · unfold create
    rw [checkNonNegative_of_isCapacity (isCapacity_of_wholeNumber hcapacity)]
    cases a <;> first | exact absurd rfl hreal | rfl
  have hstart : IsSized c₀ 0 (⟨key, value, a, capacity, some []⟩ : GrowingMap κ) c₀ :=
    isSized_of_create hcapacity
  obtain ⟨c, hsized, -⟩ := hstart.run hcreated
  rw [Nat.zero_max] at hsized
  exact ⟨_, c,
    { size := size_eq_count hcreated
      capacity := hsized.capacity?_eq hcreated
      room := hsized.room
      power := hsized.power
      tight := hsized.tight
      steady := hsized.eq_of_peak_le
      lasting := by
        intro more hlater
        rw [answers_append] at hlater ⊢
        obtain ⟨c', hlast, hle⟩ := hsized.run hlater
        obtain ⟨v, hv, hc'⟩ := hlast.capacity?_eq hlater
        exact ⟨v, c', hv, hc', hle⟩
      refusing := fun k v h => answer_of_contains h }⟩

/-- Calls that fill a map, refuse a key, make room, fill the map again and empty it. -/
def refillCalls : List (MapCall Value) :=
  [.add (.text "north") (.int 1), .tryAdd (.text "east") (.int 2), .add (.text "east") (.int 3),
    .remove (.text "north"), .add (.text "south") (.int 4), .add (.text "west") (.int 5), .clear]

/-- A map without room at first has room for four entries after it held three, also when it is
emptied. -/
theorem capacity_refillCalls :
    ∃ m : GrowingMap Value, create (.hint (.cls (.builtin "str"))) (.hint (.cls (.builtin "int")))
        (.int 0) (.allocator .temp) = .ok m ∧
      m.HoldsWithin 0 refillCalls 0 4 ∧ m.peak refillCalls = 3 := by
  obtain ⟨m, hcreate, hholds⟩ : ∃ m : GrowingMap Value, _ := capacity_of_create
    (.hint (.cls (.builtin "str"))) (.hint (.cls (.builtin "int")))
    (show (Value.int 0).wholeNumber? = some ((0 : Nat) : Int) from rfl)
    (nofun : Allocator.temp ≠ .none)
  refine ⟨m, hcreate, ?_⟩
  cases hcreate
  obtain ⟨n, c, h⟩ := hholds refillCalls rfl
  obtain ⟨v, hv, hc⟩ := h.capacity
  obtain rfl : 0 = n := Except.ok.inj h.size
  obtain rfl : .int 4 = v := Except.ok.inj hv
  obtain rfl : 4 = c := Int.ofNat.inj (Option.some.inj hc)
  exact ⟨h, rfl⟩

end Runs

end GrowingMap

end StructForge.Container
