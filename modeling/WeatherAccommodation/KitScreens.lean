/-
# Both kit screens, with whatever the server sends

The lists of a screen are the server's, and so are the quantities until the user types others; the
arrays they are looked up in are the app's.  `kit_screens_never_trap_iff` puts the two screens
together: a state is safe exactly if its lists fit, and lists that fit when they arrive go on
fitting as long as the texts that are typed are blank or numbers.  The filter of the field does not
see to that: it lets in any one character.
-/
import WeatherAccommodation.Client.EquipmentRows
import WeatherAccommodation.Provider.ProductKit

namespace WeatherAccommodation

open Foundation Reactive

/-! ## 1. A list in a table -/

namespace KitTable

/-- The list is empty until it is there, has a picture for each kit, and a button for each size. -/
structure FitsTable (buttons : Nat) (kitIsAsked : Bool) (kits : List ProductKit) : Prop where
  empty : kitIsAsked = true → kits = []
  length : kits.length ≤ 3
  sizes : ∀ kit ∈ kits, kit.sizes.length ≤ buttons

variable {buttons row : Nat} {tag : Int} {kitIsAsked : Bool} {kits after : List ProductKit}
  {kit : ProductKit} {response : List Dict}

theorem fitsTable_nil (buttons : Nat) (kitIsAsked : Bool) : FitsTable buttons kitIsAsked [] :=
  ⟨fun _ => rfl, by simp, by simp⟩

/-- Kits come without sizes. -/
theorem FitsTable.getKit (h : FitsTable buttons true kits) (hlen : response.length ≤ 3) :
    FitsTable buttons false (getKit kits response) where
  empty := fun hfalse => absurd hfalse (by simp)
  length := by simpa [KitTable.getKit, h.empty rfl] using hlen
  sizes := by
    intro kit hkit
    simp only [KitTable.getKit, h.empty rfl, List.nil_append, List.mem_map] at hkit
    obtain ⟨dict, _, rfl⟩ := hkit
    exact Nat.zero_le _

theorem FitsTable.getKitSize (h : FitsTable buttons kitIsAsked kits)
    (hsizes : ∀ kit ∈ kits, (sizesOf response kit).length ≤ buttons) :
    FitsTable buttons kitIsAsked (getKitSize kits response) where
  empty := fun hasked => by simp [KitTable.getKitSize, h.empty hasked]
  length := by simpa [KitTable.getKitSize] using h.length
  sizes := by
    intro kit hkit
    simp only [KitTable.getKitSize, List.mem_map] at hkit
    obtain ⟨kit', hkit', rfl⟩ := hkit
    exact hsizes kit' hkit'

/-- A kit is put back into its row. -/
theorem FitsTable.set (h : FitsTable buttons kitIsAsked kits) (hsizes : kit.sizes.length ≤ buttons) :
    FitsTable buttons kitIsAsked (kits.set row kit) where
  empty := fun hasked => by simp [h.empty hasked]
  length := by
    rw [List.length_set]
    exact h.length
  sizes := by
    intro k hk
    rcases List.mem_or_eq_of_mem_set hk with hk | rfl
    · exact h.sizes k hk
    · exact hsizes

/-- A press leaves as many sizes as there were, and every quantity. -/
theorem btnSizePressed_eq_set (h : btnSizePressed kits row tag = .ok after) :
    ∃ kit sizes, kits[row]? = some kit ∧ sizes.length = kit.sizes.length ∧
      after = kits.set row { kit with sizes := sizes } := by
  simp only [btnSizePressed, bind_eq_ok, unwrap_eq_ok, pure_eq_ok] at h
  obtain ⟨kit, hkit, rfl⟩ := h
  exact ⟨kit, _, hkit, List.length_map .., rfl⟩

theorem FitsTable.btnSizePressed (h : FitsTable buttons kitIsAsked kits)
    (hpress : btnSizePressed kits row tag = .ok after) : FitsTable buttons kitIsAsked after := by
  obtain ⟨kit, sizes, hkit, hlen, rfl⟩ := btnSizePressed_eq_set hpress
  refine h.set ?_
  rw [hlen]
  exact h.sizes kit (List.mem_of_getElem? hkit)

end KitTable

open KitTable

/-! ## 2. The provider's screen -/

namespace ProviderProductKit

/-- A reply that fits. -/
def IsFitting (s : ProviderProductKit) : ProviderProductKitEvent → Prop
  | .kitReply response => response.length ≤ 3
  | .kitSizeReply response => ∀ kit ∈ s.productKitList, (sizesOf response kit).length ≤ 10
  | _ => True

theorem fitsTable_step {s t : ProviderProductKit} {e : ProviderProductKitEvent}
    (h : FitsTable 10 s.kitIsAsked s.productKitList) (hfit : IsFitting s e)
    (hstep : machine.Step s e t) : FitsTable 10 t.kitIsAsked t.productKitList := by
  cases e with
  | kitReply response =>
    simp only [Machine.Step, machine, react, Option.ite_none_right_eq_some, Option.some.injEq,
      Except.ok.injEq] at hstep
    obtain ⟨hasked, rfl⟩ := hstep
    rw [hasked] at h
    exact h.getKit hfit
  | kitSizeReply response =>
    simp only [Machine.Step, machine, react, Option.ite_none_right_eq_some, Option.some.injEq,
      Except.ok.injEq] at hstep
    obtain ⟨_, rfl⟩ := hstep
    exact h.getKitSize hfit
  | cellForRowAt row sizeButtons =>
    simp only [Machine.Step, machine, react, Option.ite_none_right_eq_some,
      Option.some.injEq] at hstep
    obtain ⟨_, hstep⟩ := hstep
    obtain ⟨_, _, rfl⟩ := map_eq_ok.mp hstep
    exact h
  | btnSizePressed row tag =>
    simp only [Machine.Step, machine, react, Option.ite_none_right_eq_some,
      Option.some.injEq] at hstep
    obtain ⟨_, hstep⟩ := hstep
    obtain ⟨kits, hkits, rfl⟩ := map_eq_ok.mp hstep
    exact h.btnSizePressed hkits
  | btnNextPressed device =>
    simp only [Machine.Step, machine, react, Option.some.injEq] at hstep
    obtain ⟨_, _, rfl⟩ := map_eq_ok.mp hstep
    exact h

/-- Replies that fit keep the screen safe. -/
theorem isSafe_of_run {s : ProviderProductKit} (h : machine.RunWhere IsFitting {} s) :
    IsSafe machine s := by
  have hfits : FitsTable 10 s.kitIsAsked s.productKitList :=
    h.invariant (I := fun s => FitsTable 10 s.kitIsAsked s.productKitList) (fitsTable_nil 10 true)
      fun _ _ _ hs hfit hstep => fitsTable_step hs hfit hstep
  exact Fits.isSafe ⟨hfits.length, hfits.sizes⟩

end ProviderProductKit

/-! ## 3. The client's screen -/

namespace ExtraEquipment

/-- The screen as it opens, with the charge of earlier visits. -/
def opened (extraCharge : ℚ) : ExtraEquipment := { extraCharge := extraCharge }

/-- A reply that fits, and a text that is blank or a number. -/
def IsFitting (s : ExtraEquipment) : ExtraEquipmentEvent → Prop
  | .kitReply response => response.length ≤ 3 ∧ ∀ dict ∈ response, Reads (ProductKit.ofDict dict)
  | .kitSizeReply response => ∀ kit ∈ s.productKitList, (sizesOf response kit).length ≤ 6
  | .textFieldDidEndEditing row =>
    s.txtQty row = "" ∨ ∃ n, int? (s.txtQty row) = some n
  | _ => True

/-- The list fits the table, and Next can read every quantity. -/
structure Fitting (s : ExtraEquipment) : Prop where
  table : FitsTable 6 s.kitIsAsked s.productKitList
  quantities : ∀ kit ∈ s.productKitList, Reads kit

variable {s t : ExtraEquipment}

theorem readable_of_reads {kits : List ProductKit} (h : ∀ kit ∈ kits, Reads kit) :
    Readable kits := by
  induction kits with
  | nil => trivial
  | cons kit kits ih =>
    exact ⟨h kit List.mem_cons_self, fun _ => ih fun k hk => h k (List.mem_cons_of_mem _ hk)⟩

theorem Fitting.fits (h : Fitting s) : Fits s :=
  ⟨h.table.length, h.table.sizes, readable_of_reads h.quantities⟩

theorem reads_set {kits : List ProductKit} {row : Nat} {kit : ProductKit}
    (h : ∀ kit ∈ kits, Reads kit) (hkit : Reads kit) : ∀ k ∈ kits.set row kit, Reads k := by
  intro k hk
  rcases List.mem_or_eq_of_mem_set hk with hk | rfl
  · exact h k hk
  · exact hkit

theorem Fitting.step {e : ExtraEquipmentEvent} (h : Fitting s) (hfit : IsFitting s e)
    (hstep : machine.Step s e t) : Fitting t := by
  cases e with
  | kitReply response =>
    simp only [Machine.Step, machine, react, Option.ite_none_right_eq_some, Option.some.injEq,
      Except.ok.injEq] at hstep
    obtain ⟨hasked, rfl⟩ := hstep
    have htable := h.table
    rw [hasked] at htable
    refine ⟨htable.getKit hfit.1, ?_⟩
    intro kit hkit
    simp only [getKit, htable.empty rfl, List.nil_append, List.mem_map] at hkit
    obtain ⟨dict, hdict, rfl⟩ := hkit
    exact hfit.2 dict hdict
  | kitSizeReply response =>
    simp only [Machine.Step, machine, react, Option.ite_none_right_eq_some, Option.some.injEq,
      Except.ok.injEq] at hstep
    obtain ⟨_, rfl⟩ := hstep
    refine ⟨h.table.getKitSize hfit, ?_⟩
    intro kit hkit
    simp only [getKitSize, List.mem_map] at hkit
    obtain ⟨kit', hkit', rfl⟩ := hkit
    exact h.quantities kit' hkit'
  | cellForRowAt row sizeButtons =>
    simp only [Machine.Step, machine, react, Option.map_eq_some_iff] at hstep
    obtain ⟨kit, _, hstep⟩ := hstep
    obtain ⟨_, _, rfl⟩ := map_eq_ok.mp hstep
    exact ⟨h.table, h.quantities⟩
  | btnSizePressed row tag =>
    simp only [Machine.Step, machine, react, Option.ite_none_right_eq_some,
      Option.some.injEq] at hstep
    obtain ⟨_, hstep⟩ := hstep
    obtain ⟨kits, hkits, rfl⟩ := map_eq_ok.mp hstep
    refine ⟨h.table.btnSizePressed hkits, ?_⟩
    obtain ⟨kit, sizes, hkit, _, rfl⟩ := btnSizePressed_eq_set hkits
    exact reads_set h.quantities (h.quantities kit (List.mem_of_getElem? hkit))
  | shouldChangeCharactersIn row edit =>
    simp only [Machine.Step, machine, react, Option.ite_none_right_eq_some] at hstep
    obtain ⟨_, hstep⟩ := hstep
    split at hstep
    · obtain rfl := Except.ok.inj (Option.some.inj hstep)
      exact ⟨h.table, h.quantities⟩
    · obtain rfl := Except.ok.inj (Option.some.inj hstep)
      exact h
  | textFieldDidEndEditing row =>
    simp only [Machine.Step, machine, react, Option.ite_none_right_eq_some, Option.some.injEq,
      ExtraEquipment.textFieldDidEndEditing, bind_eq_ok, unwrap_eq_ok, pure_eq_ok] at hstep
    obtain ⟨_, kit, hkit, rfl⟩ := hstep
    exact ⟨h.table.set (h.table.sizes kit (List.mem_of_getElem? hkit)),
      reads_set h.quantities hfit⟩
  | btnNextPressed =>
    simp only [Machine.Step, machine, react, Option.some.injEq] at hstep
    obtain ⟨_, _, rfl⟩ := map_eq_ok.mp hstep
    exact ⟨h.table, h.quantities⟩

/-- Replies and texts that fit keep the screen safe. -/
theorem isSafe_of_run {extraCharge : ℚ}
    (h : machine.RunWhere IsFitting (opened extraCharge) s) : IsSafe machine s := by
  have hopened : Fitting (opened extraCharge) := ⟨fitsTable_nil 6 true, by simp [opened]⟩
  exact (h.invariant hopened fun _ _ _ hs hfit hstep => hs.step hfit hstep).fits.isSafe

end ExtraEquipment

/-! ## 4. Both -/

/-- **When the kit screens never trap.**  In every state, nothing that can happen next runs out of
the prices, the pictures or the buttons or reads a number that is none, exactly if there are three
kits at most, with no more sizes than the cell has buttons, six at the client's and ten at the
provider's, and on the client's screen the quantities are blank or numbers up to the first kit Next
alerts about.  So it is in every run in which the replies are like that, with quantities that are
blank or numbers, and the texts that are stored are too. -/
theorem kit_screens_never_trap_iff (s : ExtraEquipment) (p : ProviderProductKit)
    (extraCharge : ℚ) :
    (IsSafe ExtraEquipment.machine s ↔ s.Fits) ∧
    (IsSafe ProviderProductKit.machine p ↔ p.Fits) ∧
    (ExtraEquipment.machine.RunWhere ExtraEquipment.IsFitting
      (ExtraEquipment.opened extraCharge) s → IsSafe ExtraEquipment.machine s) ∧
    (ProviderProductKit.machine.RunWhere ProviderProductKit.IsFitting {} p →
      IsSafe ProviderProductKit.machine p) :=
  ⟨ExtraEquipment.isSafe_iff, ProviderProductKit.isSafe_iff p, ExtraEquipment.isSafe_of_run,
    ProviderProductKit.isSafe_of_run⟩

/-- A kit as the server sends it, without a quantity. -/
def sentKit (id : Int) : Dict := [("ProductKitId", .ofInt id), ("Name", .str "Umbrella")]

/-- A size of the first kit. -/
def sentSize (id : Int) : Dict := [("ProductKitSizeId", .ofInt id), ("ProductKitId", .ofInt 1)]

/-- The buttons of a fresh cell. -/
def freshButtons (n : Nat) : KitTable.SizeButtons n := ⟨List.replicate n {}, List.length_replicate⟩

/-- Three kits with a size for the first, and 2 in its field. -/
theorem three_kits_are_safe :
    ∃ s, ExtraEquipment.machine.Run (ExtraEquipment.opened 0) s ∧
      s.productKitList.length = 3 ∧ IsSafe ExtraEquipment.machine s := by
  have htest : (ExtraEquipment.machine.replay (fun _ _ => true)
      (ExtraEquipment.opened 0) [.kitReply [sentKit 1, sentKit 2, sentKit 3],
        .kitSizeReply [sentSize 1], .cellForRowAt 0 (freshButtons 6),
        .shouldChangeCharactersIn 0 ⟨"", "", "", "2"⟩, .textFieldDidEndEditing 0]).any
      (fun s => s.productKitList.length == 3 && s.productKitList.all fun kit =>
        kit.sizes.length ≤ 6 && (kit.quantity == "" || (int? kit.quantity).isSome)) = true := by
    decide +kernel
  obtain ⟨s, hrun, hs⟩ := ExtraEquipment.machine.exists_run_of_replay
    (fun _ _ => true) _ _ _ (C := fun _ _ => True) (fun _ _ _ => trivial) htest
  simp only [Bool.and_eq_true, beq_iff_eq, List.all_eq_true, decide_eq_true_eq,
    Bool.or_eq_true] at hs
  obtain ⟨hlen, hkits⟩ := hs
  refine ⟨s, hrun, hlen, (kit_screens_never_trap_iff s {} 0).1.mpr ⟨hlen.le, ?_, ?_⟩⟩
  · exact fun kit hkit => (hkits kit hkit).1
  · refine ExtraEquipment.readable_of_reads fun kit hkit => ?_
    exact (hkits kit hkit).2.imp_right Option.isSome_iff_exists.mp

/-- **Four kits, seven sizes, or the letter x.**  The fourth row has no price, the seventh size no
button, and the text that the filter let in is no number. -/
theorem kit_screens_trap :
    (∃ s, ExtraEquipment.machine.Run (ExtraEquipment.opened 0) s ∧
      ExtraEquipment.machine.Traps s (.cellForRowAt 3 (freshButtons 6))
        .indexOutOfRange) ∧
    (∃ s, ExtraEquipment.machine.Run (ExtraEquipment.opened 0) s ∧
      ExtraEquipment.machine.Traps s (.cellForRowAt 0 (freshButtons 6))
        .indexOutOfRange) ∧
    (∃ s, ExtraEquipment.machine.Run (ExtraEquipment.opened 0) s ∧
      ExtraEquipment.machine.Traps s .btnNextPressed (.notANumber "Quantity")) ∧
    (∃ s, ProviderProductKit.machine.Run {} s ∧
      ProviderProductKit.machine.Traps s (.cellForRowAt 3 (freshButtons 10)) .indexOutOfRange) ∧
    ¬ ∀ s, ExtraEquipment.machine.Run (ExtraEquipment.opened 0) s →
      IsSafe ExtraEquipment.machine s := by
  have hfour : ∃ s, ExtraEquipment.machine.Run (ExtraEquipment.opened 0) s ∧
      ExtraEquipment.machine.Traps s (.cellForRowAt 3 (freshButtons 6))
        .indexOutOfRange :=
    ExtraEquipment.machine.exists_traps_of_replay (fun _ _ => true) _
      [.kitReply [sentKit 1, sentKit 2, sentKit 3, sentKit 4]] _ _ (fun _ _ _ => trivial)
      (by decide +kernel)
  refine ⟨hfour, ?_, ?_, ?_, ?_⟩
  · exact ExtraEquipment.machine.exists_traps_of_replay (fun _ _ => true) _
      [.kitReply [sentKit 1], .kitSizeReply [sentSize 1, sentSize 2, sentSize 3, sentSize 4,
        sentSize 5, sentSize 6, sentSize 7]] _ _ (fun _ _ _ => trivial) (by decide +kernel)
  · exact ExtraEquipment.machine.exists_traps_of_replay (fun _ _ => true) _
      [.kitReply [sentKit 1], .cellForRowAt 0 (freshButtons 6),
        .shouldChangeCharactersIn 0 ⟨"", "", "", "x"⟩, .textFieldDidEndEditing 0] _ _
      (fun _ _ _ => trivial) (by decide +kernel)
  · exact ProviderProductKit.machine.exists_traps_of_replay (fun _ _ => true) _
      [.kitReply [sentKit 1, sentKit 2, sentKit 3, sentKit 4]] _ _ (fun _ _ _ => trivial)
      (by decide +kernel)
  · intro hsafe
    obtain ⟨s, hrun, htraps⟩ := hfour
    exact absurd (hsafe s hrun _ _ htraps) (by simp [isKitFault])

end WeatherAccommodation
