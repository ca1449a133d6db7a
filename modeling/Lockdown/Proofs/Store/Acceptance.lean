import Lockdown.Proofs.Store.BaseChain
import Lockdown.Proofs.Store.Fields
import Lockdown.Proofs.Store.Layers

/-! Which layers make a store, and what the store then holds. The checks run one after another on
the merged table; each is taken apart on its own and the results are put together here. -/
namespace Lockdown

/-- The registers and the field that a base names are defined. -/
structure Grounded (look : String → Option Register) (base : BaseAddress) : Prop where
  register : ∃ b, look base.register = some b ∧
    ∀ field, base.field = some field → ∃ f, b.field? field = some f
  upper : ∀ upper, base.upper = some upper → ∃ u, look upper = some u

theorem Grounded.exists_dependency {look : String → Option Register} {base : BaseAddress}
    {d : String} (h : Grounded look base) (hd : d ∈ base.dependencies) : ∃ q, look d = some q := by
  rcases List.mem_cons.1 hd with rfl | hd
  · obtain ⟨⟨b, hb, -⟩, -⟩ := h
    exact ⟨b, hb⟩
  · exact h.upper d (Option.mem_toList.1 hd)

/-- Every chain of bases can be followed to its end. -/
structure Resolvable (look : String → Option Register) : Prop where
  grounded : ∀ name r base offset, look name = some r → r.location = .mmio base offset →
    Grounded look base
  acyclic : Acyclic look

structure Sound (look : String → Option Register) : Prop extends Resolvable look where
  laidOut : ∀ name r, look name = some r → r.LaidOut

/-- No field that counts ends past the place where a u32 wraps round. -/
def Unwrapped (look : String → Option Register) : Prop :=
  ∀ name r, look name = some r → r.Unwrapped

namespace Table

variable {t : Table} {r : Register}

theorem checkBase_mmio (t : Table) (name : String) (base : BaseAddress) (offset : UInt64)
    (width : AccessWidth) (desc : String) (fields : NameMap Field) :
    t.checkBase ⟨name, .mmio base offset, width, desc, fields⟩ = .ok () ↔
      Grounded t.get? base := by
  cases hb : t.get? base.register with
  | none =>
    simp only [checkBase, hb, reduceCtorEq, false_iff]
    rintro ⟨⟨b, hb', -⟩, -⟩
    simp [hb] at hb'
  | some b =>
    cases hf : base.field.filter fun field => (b.field? field).isNone with
    | some field =>
      simp only [checkBase, hb, hf, reduceCtorEq, false_iff]
      rintro ⟨⟨b', hb', hfield⟩, -⟩
      obtain rfl : b = b' := Option.some.inj (hb.symm.trans hb')
      obtain ⟨hsome, hnone⟩ := Option.filter_eq_some_iff.1 hf
      obtain ⟨f, hf'⟩ := hfield field hsome
      simp [hf'] at hnone
    | none =>
      have hfield : ∀ field, base.field = some field → ∃ f, b.field? field = some f := by
        intro field hsome
        simpa [Option.ne_none_iff_exists'] using Option.filter_eq_none_iff.1 hf field hsome
      cases hu : base.upper.filter fun upper => !t.contains upper with
      | some upper =>
        simp only [checkBase, hb, hf, hu, reduceCtorEq, false_iff]
        rintro ⟨-, hupper⟩
        obtain ⟨hsome, hnone⟩ := Option.filter_eq_some_iff.1 hu
        obtain ⟨u, hu'⟩ := hupper upper hsome
        simp [NameMap.contains, hu'] at hnone
      | none =>
        simp only [checkBase, hb, hf, hu, true_iff]
        refine ⟨⟨b, hb, hfield⟩, ?_⟩
        intro upper hsome
        simpa [NameMap.contains, Option.ne_none_iff_exists']
          using Option.filter_eq_none_iff.1 hu upper hsome

theorem checkBase_eq_ok_iff (t : Table) (r : Register) :
    t.checkBase r = .ok () ↔
      ∀ base offset, r.location = .mmio base offset → Grounded t.get? base := by
  obtain ⟨name, location, width, desc, fields⟩ := r
  cases location with
  | mmio base offset => simp [checkBase_mmio]
  | _ => simp [checkBase]

theorem check_eq_ok_iff (t : Table) (r : Register) :
    t.check r = .ok () ↔ checkRange r = .ok () ∧ checkOverlap r r.fieldsByBit = .ok () ∧
      t.checkBase r = .ok () := by
  rw [check, check_bind_eq_ok_iff, check_bind_eq_ok_iff]

theorem laidOut_iff (hr : r.Unwrapped) :
    r.LaidOut ↔ checkRange r = .ok () ∧ checkOverlap r r.fieldsByBit = .ok () := by
  have hinside : checkRange r = .ok () ↔
      ∀ name f, r.field? name = some f → 1 ≤ f.size.toNat ∧ f.top ≤ r.width.bits := by
    rw [checkRange_eq_ok_iff]
    apply forall₃_congr
    intro name f hf
    rw [Field.toNat_stop (hr name f hf)]
  rw [hinside]
  constructor
  · rintro ⟨inside, apart⟩
    refine ⟨inside, ?_⟩
    exact (checkOverlap_fieldsByBit_eq_ok_iff hr fun name f h => (inside name f h).1).2 apart
  · rintro ⟨inside, hoverlap⟩
    refine ⟨inside, ?_⟩
    exact (checkOverlap_fieldsByBit_eq_ok_iff hr fun name f h => (inside name f h).1).1 hoverlap

theorem check_of_sound (hwhole : Unwrapped t.get?) (hsound : Sound t.get?) :
    ∀ r ∈ t.values, t.check r = .ok () := by
  intro r hr
  obtain ⟨name, hname⟩ := NameMap.mem_values_iff.1 hr
  obtain ⟨hrange, hoverlap⟩ := (laidOut_iff (hwhole name r hname)).1 (hsound.laidOut name r hname)
  have hbase := (checkBase_eq_ok_iff t r).2 fun base offset =>
    hsound.grounded name r base offset hname
  exact (check_eq_ok_iff t r).2 ⟨hrange, hoverlap, hbase⟩

end Table

namespace Store

variable {chipset : String} {layers layers' : List (List Register)} {s : Store}

theorem nodup_of_forM (h : layers.forM (checkLayer chipset) = .ok ()) :
    ∀ layer ∈ layers, (layer.map (·.name)).Nodup := fun layer hl =>
  (checkLayer_eq_ok_iff chipset layer).1 ((forM_eq_ok_iff _ _).1 h layer hl)

theorem build_eq_ok (h : build chipset layers = .ok s) :
    (∀ layer ∈ layers, (layer.map (·.name)).Nodup) ∧
      (∀ r ∈ (Table.ofLayers layers).values, (Table.ofLayers layers).check r = .ok ()) ∧
      s.chipset = chipset ∧ s.table = Table.ofLayers layers := by
  unfold build at h
  rw [check_bind_eq_ok_iff, check_bind_eq_ok_iff, bind_eq_ok_iff] at h
  obtain ⟨hlayers, hcheck, ⟨order, settled, complete⟩, -, hs⟩ := h
  obtain rfl := Except.ok.inj hs
  exact ⟨nodup_of_forM hlayers, (forM_eq_ok_iff _ _).1 hcheck, rfl, rfl⟩

theorem get?_of_build (h : build chipset layers = .ok s) (name : String) :
    s.get? name = effective layers name := by
  obtain ⟨hnodup, -, -, htable⟩ := build_eq_ok h
  rw [get?, htable, get?_ofLayers hnodup]

/-- A register that is accepted alone is what the store holds under its name. -/
theorem exists_single (chipset : String) (r : Register)
    (h : (build chipset [[r]]).isOk = true) :
    ∃ s, build chipset [[r]] = .ok s ∧ s.get? r.name = some r := by
  obtain ⟨s, hs⟩ := exists_eq_ok_of_isOk h
  refine ⟨s, hs, ?_⟩
  rw [get?_of_build hs]
  simp [effective]

theorem check_of_build (h : build chipset layers = .ok s) {name : String} {r : Register}
    (hr : s.get? name = some r) : s.table.check r = .ok () := by
  obtain ⟨-, hcheck, -, htable⟩ := build_eq_ok h
  rw [htable]
  refine hcheck r (NameMap.mem_values_iff.2 ⟨name, ?_⟩)
  rw [← htable]
  exact hr

theorem resolvable_of_build (h : build chipset layers = .ok s) : Resolvable s.get? := by
  refine ⟨fun name r base offset hr => ?_, s.acyclic⟩
  obtain ⟨-, -, hbase⟩ := (Table.check_eq_ok_iff s.table r).1 (check_of_build h hr)
  exact (Table.checkBase_eq_ok_iff s.table r).1 hbase base offset

theorem inside_of_build (h : build chipset layers = .ok s) {name field : String} {r : Register}
    {f : Field} (hr : s.get? name = some r) (hf : r.field? field = some f)
    (hwhole : f.Unwrapped) : f.top ≤ r.width.bits := by
  obtain ⟨hrange, -, -⟩ := (Table.check_eq_ok_iff s.table r).1 (check_of_build h hr)
  rw [← Field.toNat_stop hwhole]
  exact ((Table.checkRange_eq_ok_iff r).1 hrange field f hf).2

theorem laidOut_of_build (h : build chipset layers = .ok s) {name : String} {r : Register}
    (hr : s.get? name = some r) (hwhole : r.Unwrapped) : r.LaidOut := by
  obtain ⟨hrange, hoverlap, -⟩ := (Table.check_eq_ok_iff s.table r).1 (check_of_build h hr)
  exact (Table.laidOut_iff hwhole).2 ⟨hrange, hoverlap⟩

theorem exists_build_iff (hwhole : Unwrapped (effective layers)) :
    (∃ s, build chipset layers = .ok s) ↔
      (∀ layer ∈ layers, (layer.map (·.name)).Nodup) ∧ Sound (effective layers) := by
  constructor
  · rintro ⟨s, h⟩
    have hget : s.get? = effective layers := funext (get?_of_build h)
    refine ⟨(build_eq_ok h).1, ?_⟩
    rw [← hget] at hwhole ⊢
    exact ⟨resolvable_of_build h, fun name r hr => laidOut_of_build h hr (hwhole name r hr)⟩
  · rintro ⟨hnodup, hsound⟩
    have htable : (Table.ofLayers layers).get? = effective layers := funext (get?_ofLayers hnodup)
    rw [← htable] at hwhole hsound
    have hcheck := Table.check_of_sound hwhole hsound
    obtain ⟨⟨order, settled, complete⟩, horder⟩ := BaseOrder.ofTable_eq_ok_iff.2 hsound.acyclic
    refine ⟨⟨chipset, Table.ofLayers layers, order, settled, complete⟩, ?_⟩
    unfold build
    rw [check_bind_eq_ok_iff, forM_eq_ok_iff, check_bind_eq_ok_iff, forM_eq_ok_iff, horder]
    exact ⟨fun layer hl => (checkLayer_eq_ok_iff chipset layer).2 (hnodup layer hl), hcheck, rfl⟩

private theorem forM_checkLayer_congr (chipset : String)
    (hnames : layers'.map (·.map (·.name)) = layers.map (·.map (·.name))) :
    layers'.forM (checkLayer chipset) = layers.forM (checkLayer chipset) := by
  induction layers generalizing layers' with
  | nil =>
    rw [List.map_nil, List.map_eq_nil_iff] at hnames
    rw [hnames]
  | cons layer rest ih =>
    obtain ⟨layer', rest', rfl, hlayer, hrest⟩ := List.map_eq_cons_iff.1 hnames
    have hcheck : checkLayer chipset layer' = checkLayer chipset layer := by
      simp only [checkLayer, hlayer]
    have ih := ih hrest
    rw [List.forM_eq_forM] at ih ⊢
    rw [List.forM_cons, List.forM_cons, hcheck, ih]

/-- Only the names of each layer and the definitions that count are ever looked at. -/
theorem build_congr (hnames : layers'.map (·.map (·.name)) = layers.map (·.map (·.name)))
    (heff : ∀ name, effective layers' name = effective layers name) :
    build chipset layers' = build chipset layers := by
  unfold build
  rw [forM_checkLayer_congr chipset hnames]
  cases hlayers : layers.forM (checkLayer chipset) with
  | error e => rfl
  | ok =>
    have hlayers' := (forM_checkLayer_congr chipset hnames).trans hlayers
    have htable : Table.ofLayers layers' = Table.ofLayers layers := by
      apply NameMap.ext_get?
      intro name
      rw [get?_ofLayers (nodup_of_forM hlayers'), get?_ofLayers (nodup_of_forM hlayers), heff]
    rw [htable]

end Store

/-- Layers make a store exactly when none of them repeats a name and what counts of them fits
together; the store holds just that, in order of name, and what a later layer replaces has no
part in the outcome, an error included. Of several errors the first by name is reported; this is the
order of the map here, and another map may report another of them. -/
theorem build_exact (chipset : String) (layers : List (List Register)) :
    (Unwrapped (effective layers) →
      ((∃ s, Store.build chipset layers = .ok s) ↔
        (∀ layer ∈ layers, (layer.map (·.name)).Nodup) ∧ Sound (effective layers))) ∧
    (∀ s, Store.build chipset layers = .ok s →
      s.chipset = chipset ∧
      (∀ name, s.get? name = effective layers name) ∧
      (∀ name r, s.get? name = some r → r.name = name) ∧
      s.names.Pairwise (· < ·) ∧
      ∀ name, name ∈ s.names ↔ ∃ layer ∈ layers, ∃ r ∈ layer, r.name = name) ∧
    ∀ layers', layers'.map (·.map (·.name)) = layers.map (·.map (·.name)) →
      (∀ name, effective layers' name = effective layers name) →
      Store.build chipset layers' = Store.build chipset layers := by
  refine ⟨fun hwhole => Store.exists_build_iff hwhole, ?_, fun _ => Store.build_congr⟩
  intro s h
  have hget := Store.get?_of_build h
  refine ⟨(Store.build_eq_ok h).2.2.1, hget, ?_, s.table.names_ascending, ?_⟩
  · intro name r hr
    exact name_of_effective ((hget name).symm.trans hr)
  · intro name
    rw [← exists_effective_iff, ← hget]
    exact NameMap.mem_names_iff

theorem build_exact_replaced :
    let empty : Register := ⟨"STATUS", .msr 0x3A, .qword, "", .ofList [("LOCK", ⟨0, 0, ""⟩)]⟩
    let whole : Register := ⟨"STATUS", .msr 0x3A, .qword, "", .ofList [("LOCK", ⟨0, 1, ""⟩)]⟩
    Sound (effective [[empty], [whole]]) ∧
      ∃ s, Store.build "status" [[empty], [whole]] = .ok s ∧ s.get? "STATUS" = some whole := by
  intro empty whole
  obtain ⟨s, hs⟩ : ∃ s, Store.build "status" [[empty], [whole]] = .ok s :=
    exists_eq_ok_of_isOk (by decide +kernel)
  obtain ⟨haccepts, hholds, -⟩ := build_exact "status" [[empty], [whole]]
  obtain ⟨-, hget, -⟩ := hholds s hs
  have hwhole : Unwrapped (effective [[empty], [whole]]) := by
    intro name r hr
    obtain ⟨layer, hlayer, hmem⟩ := mem_of_effective hr
    have hunwrapped : ∀ layer ∈ [[empty], [whole]], ∀ r ∈ layer, r.Unwrapped := by decide
    exact hunwrapped layer hlayer r hmem
  exact ⟨((haccepts hwhole).1 ⟨s, hs⟩).2, s, hs, (hget "STATUS").trans (by decide)⟩

end Lockdown
