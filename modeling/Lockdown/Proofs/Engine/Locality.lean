import Lockdown.Proofs.Engine.Reading

/-! What a register means is decided by its own definition and by those of the registers that
locate it. Two stores that agree there may differ in everything else: no access to the register
can tell them apart, on any platform. -/
namespace Lockdown

/-- Every name that leads on only to names in the list stays in the list. -/
theorem BasedOn.mem_of_closed {look : String → Option Register} {names : List String}
    (hclosed : ∀ n ∈ names, ∀ r ∈ look n, ∀ d ∈ r.baseDependencies, d ∈ names)
    {name d : String} (hname : name ∈ names) (h : BasedOn look name d) : d ∈ names := by
  induction h with
  | refl => exact hname
  | tail _ hstep ih =>
    obtain ⟨r, hr, hd⟩ := hstep
    exact hclosed _ ih r hr _ hd

namespace Store

/-- The stores define this register alike, and every register that locates it. -/
def AgreeOn (s s' : Store) (name : String) : Prop :=
  ∀ d, BasedOn s.get? name d → s'.get? d = s.get? d

variable {s s' : Store} {name d field : String}

theorem AgreeOn.get? (h : s.AgreeOn s' name) : s'.get? name = s.get? name := h name .refl

theorem AgreeOn.of_dependency (h : s.AgreeOn s' name) (hd : DependsOn s.get? name d) :
    s.AgreeOn s' d := fun c hc => h c (.head hd hc)

theorem AgreeOn.require (h : s.AgreeOn s' name) : s'.require name = s.require name := by
  unfold Store.require
  rw [h.get?]

theorem AgreeOn.requireField (h : s.AgreeOn s' name) :
    s'.requireField name field = s.requireField name field := by
  unfold Store.requireField
  rw [h.require]

theorem AgreeOn.getField (h : s.AgreeOn s' name) (value : UInt64) (inPlace : Bool) :
    s'.getField name value field inPlace = s.getField name value field inPlace := by
  unfold Store.getField
  rw [h.requireField]

theorem AgreeOn.setField (h : s.AgreeOn s' name) (value new : UInt64) :
    s'.setField name value field new = s.setField name value field new := by
  unfold Store.setField
  rw [h.requireField]

end Store

namespace Engine

variable {σ : Type} {s s' : Store} {thread : UInt32} {name : String}

theorem baseValue_congr {base : BaseAddress} (hbase : s.AgreeOn s' base.register)
    {fetch fetch' : ∀ d ∈ base.dependencies, Access σ UInt64}
    (hfetch : ∀ d hd, fetch' d hd = fetch d hd) :
    (⟨s', thread⟩ : Engine).baseValue base fetch' =
      (⟨s, thread⟩ : Engine).baseValue base fetch := by
  obtain rfl : fetch' = fetch := funext fun d => funext fun hd => hfetch d hd
  unfold baseValue
  simp only [hbase.getField]

variable [Bus σ]

theorem readPlace_congr {r : Register} (hr : s.get? name = some r) (h : s.AgreeOn s' name)
    {fetch fetch' : ∀ d ∈ r.location.baseDependencies, Access σ UInt64}
    (hfetch : ∀ d hd, fetch' d hd = fetch d hd) (on : UInt32) :
    (⟨s', thread⟩ : Engine).readPlace on r.width r.location fetch' =
      (⟨s, thread⟩ : Engine).readPlace on r.width r.location fetch := by
  obtain ⟨name', location, width, desc, fields⟩ := r
  cases location with
  | mmio base offset =>
    have hbase : s.AgreeOn s' base.register := h.of_dependency ⟨_, hr, base.register_mem⟩
    exact congrArg (· >>= fun b => readMemory (b + offset) width) (baseValue_congr hbase hfetch)
  | _ => rfl

theorem readOn_congr (h : s.AgreeOn s' name) (on : UInt32) :
    ((⟨s', thread⟩ : Engine).readOn on name : Access σ UInt64) =
      (⟨s, thread⟩ : Engine).readOn on name := by
  -- Along the bases of the one store; the other goes the same way because it agrees there.
  induction name using s.wellFounded_dependsOn.induction generalizing on with
  | _ name ih =>
    rw [readOn_eq, readOn_eq, h.get?]
    cases hr : s.get? name with
    | none => rfl
    | some r =>
      have hfetch : ∀ d, d ∈ r.location.baseDependencies →
          ((⟨s', thread⟩ : Engine).readOn thread d : Access σ UInt64) =
            (⟨s, thread⟩ : Engine).readOn thread d := fun d hd =>
        ih d ⟨r, hr, hd⟩ (h.of_dependency ⟨r, hr, hd⟩) thread
      dsimp only
      rw [readPlace_congr hr h hfetch on]

theorem read_congr (h : s.AgreeOn s' name) :
    ((⟨s', thread⟩ : Engine).read name : Access σ UInt64) = (⟨s, thread⟩ : Engine).read name :=
  readOn_congr h thread

theorem resolveBase_congr {r : Register} {base : BaseAddress} {offset : UInt64}
    (hr : s.get? name = some r) (hl : r.location = .mmio base offset) (h : s.AgreeOn s' name) :
    ((⟨s', thread⟩ : Engine).resolveBase base : Access σ UInt64) =
      (⟨s, thread⟩ : Engine).resolveBase base := by
  have hbelow : ∀ d ∈ base.dependencies, s.AgreeOn s' d := by
    intro d hd
    refine h.of_dependency ⟨r, hr, ?_⟩
    rw [Register.baseDependencies, hl]
    exact hd
  exact baseValue_congr (hbelow _ base.register_mem) fun d hd => read_congr (hbelow d hd)

theorem baseAddress_congr (h : s.AgreeOn s' name) :
    ((⟨s', thread⟩ : Engine).baseAddress name : Access σ UInt64) =
      (⟨s, thread⟩ : Engine).baseAddress name := by
  unfold baseAddress
  rw [h.require]
  unfold Store.require
  cases hr : s.get? name with
  | none => simp only [Access.ofExcept_error_bind]
  | some r =>
    obtain ⟨name', location, width, desc, fields⟩ := r
    cases location with
    | mmio base offset => simp only [Access.ofExcept_ok_bind, resolveBase_congr hr rfl h]
    | _ => simp only [Access.ofExcept_ok_bind]

theorem write_congr (h : s.AgreeOn s' name) (value : UInt64) :
    ((⟨s', thread⟩ : Engine).write name value : Access σ (Option UInt64)) =
      (⟨s, thread⟩ : Engine).write name value := by
  unfold write
  rw [h.require]
  unfold Store.require
  cases hr : s.get? name with
  | none => simp only [Access.ofExcept_error_bind]
  | some r =>
    obtain ⟨name', location, width, desc, fields⟩ := r
    cases location with
    | mmio base offset => simp only [Access.ofExcept_ok_bind, resolveBase_congr hr rfl h]
    | _ => simp only [Access.ofExcept_ok_bind]

theorem readField_congr (h : s.AgreeOn s' name) (field : String) (inPlace : Bool) :
    ((⟨s', thread⟩ : Engine).readField name field inPlace : Access σ UInt64) =
      (⟨s, thread⟩ : Engine).readField name field inPlace := by
  unfold readField
  simp only [h.requireField, h.getField, read_congr h]

theorem writeField_congr (h : s.AgreeOn s' name) (field : String) (new : UInt64) :
    ((⟨s', thread⟩ : Engine).writeField name field new : Access σ (Option UInt64)) =
      (⟨s, thread⟩ : Engine).writeField name field new := by
  unfold writeField
  simp only [h.requireField, h.setField, read_congr h, write_congr h]

/-- Stores that agree on a register and on what locates it give the same accesses to it: from every
session these end alike, with the same transactions and the same platform. -/
theorem access_local (h : s.AgreeOn s' name) (thread : UInt32) (st : Session σ) :
    let e : Engine := ⟨s, thread⟩
    let e' : Engine := ⟨s', thread⟩
    (e'.read name).outcome st = (e.read name).outcome st ∧
      (∀ value, (e'.write name value).outcome st = (e.write name value).outcome st) ∧
      (e'.baseAddress name).outcome st = (e.baseAddress name).outcome st ∧
      (∀ field inPlace, (e'.readField name field inPlace).outcome st =
        (e.readField name field inPlace).outcome st) ∧
      ∀ field new, (e'.writeField name field new).outcome st =
        (e.writeField name field new).outcome st := by
  intro e e'
  refine ⟨?_, fun value => ?_, ?_, fun field inPlace => ?_, fun field new => ?_⟩
  · rw [read_congr h]
  · rw [write_congr h]
  · rw [baseAddress_congr h]
  · rw [readField_congr h]
  · rw [writeField_congr h]

def siteRegisters : List Register := [
  .pci "ETR3" 0 31 2 0xAC .dword "" [("CF9LOCK", ⟨30, 1, ""⟩)],
  .mmio "SITE" ⟨"SPIBAR", some "BA", none⟩ 0x08 .dword "" []]

theorem access_local_flash : ∃ s s', Chipset.coffeeLake.store [] = .ok s ∧
    Chipset.coffeeLake.store siteRegisters = .ok s' ∧
    s.field? "ETR3" "CF9LOCK" = some ⟨31, 1, "CF9h Lockdown"⟩ ∧
    s'.field? "ETR3" "CF9LOCK" = some ⟨30, 1, ""⟩ ∧
    s.contains "SITE" = false ∧ s'.contains "SITE" = true ∧ s.AgreeOn s' "HSFS" ∧
    ∀ st : Session Simulator,
      ((⟨s', 0⟩ : Engine).read "HSFS").outcome st = ((⟨s, 0⟩ : Engine).read "HSFS").outcome st ∧
      ((⟨s', 0⟩ : Engine).writeField "HSFS" "FLOCKDN" 1).outcome st =
        ((⟨s, 0⟩ : Engine).writeField "HSFS" "FLOCKDN" 1).outcome st := by
  obtain ⟨s, hs⟩ := Chipset.exists_store (c := Chipset.coffeeLake) (by simp [Chipset.all])
  have haccepted : (Chipset.coffeeLake.store siteRegisters).isOk = true := by decide +kernel
  obtain ⟨s', hs'⟩ := exists_eq_ok_of_isOk haccepted
  have hget := Chipset.get?_of_store hs
  have hsite := Chipset.get?_of_store hs'
  have hagree : s.AgreeOn s' "HSFS" := by
    intro d hd
    have hmem : d ∈ ["HSFS", "SPIBAR"] := by
      refine BasedOn.mem_of_closed ?_ (by simp) hd
      rw [show s.get? = _ from funext hget]
      decide +kernel
    rw [hsite, hget]
    simp only [List.mem_cons, List.not_mem_nil, or_false] at hmem
    rcases hmem with rfl | rfl <;> rfl
  let lock (r : Option Register) : Option Field := r.bind fun r => r.field? "CF9LOCK"
  refine ⟨s, s', hs, hs', congrArg lock (hget "ETR3"), congrArg lock (hsite "ETR3"),
    congrArg Option.isSome (hget "SITE"), congrArg Option.isSome (hsite "SITE"), hagree, ?_⟩
  intro st
  obtain ⟨hread, -, -, -, hwrite⟩ := access_local hagree 0 st
  exact ⟨hread, hwrite "FLOCKDN" 1⟩

end Engine

end Lockdown
