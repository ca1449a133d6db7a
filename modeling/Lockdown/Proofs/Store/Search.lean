import Lockdown.Proofs.Store.Acceptance
import Mathlib.Data.List.Find

/-! The search for an order of the bases as a run, with nothing to bound its depth but the names on
the path. Such a run exists for every table, cyclic or not, and there is only one, so the search
ends; what it ends with depends on the definitions alone and not on how they were listed. -/
namespace Lockdown

namespace BaseOrder

/-- A run that settles `names` in turn, below `path` and after `done`. A settled name is passed
over, a name of the path closes a cycle and ends the run, and any other is settled after its
dependencies; the first error is the last thing that happens. -/
inductive Search (t : Table) :
    List String → List String → List String → Except DefinitionError (List String) → Prop
  | nil {path done} : Search t path done [] (.ok done)
  | known {path done name names r} (hd : name ∈ done) (rest : Search t path done names r) :
      Search t path done (name :: names) r
  | closed {path done name names} (hd : name ∉ done) (hp : name ∈ path) :
      Search t path done (name :: names)
        (.error (.cyclicBaseRegister (path.dropWhile (· ≠ name) ++ [name])))
  | failed {path done name names e} (hd : name ∉ done) (hp : name ∉ path)
      (below : Search t (path ++ [name]) done (t.dependencies name) (.error e)) :
      Search t path done (name :: names) (.error e)
  | settled {path done name names mid r} (hd : name ∉ done) (hp : name ∉ path)
      (below : Search t (path ++ [name]) done (t.dependencies name) (.ok mid))
      (rest : Search t path (name :: mid) names r) : Search t path done (name :: names) r

variable {t : Table} {path done names goals : List String} {name : String}
  {r r' : Except DefinitionError (List String)}

theorem Search.deterministic (h : Search t path done names r) (h' : Search t path done names r') :
    r = r' := by
  induction h generalizing r' with
  | nil =>
    cases h'
    rfl
  | known hd _ ih =>
    cases h' with
    | known _ rest => exact ih rest
    | closed hd' | failed hd' | settled hd' => exact absurd hd hd'
  | closed hd hp =>
    cases h' with
    | known hd' => exact absurd hd' hd
    | closed => rfl
    | failed _ hp' | settled _ hp' => exact absurd hp hp'
  | failed hd hp _ ih =>
    cases h' with
    | known hd' => exact absurd hd' hd
    | closed _ hp' => exact absurd hp' hp
    | failed _ _ below => exact congrArg Except.error (Except.error.inj (ih below))
    | settled _ _ below => exact nomatch ih below
  | settled hd hp _ _ ihbelow ihrest =>
    cases h' with
    | known hd' => exact absurd hd' hd
    | closed _ hp' => exact absurd hp' hp
    | failed _ _ below => exact nomatch ihbelow below
    | settled _ _ below rest =>
      obtain rfl := Except.ok.inj (ihbelow below)
      exact ihrest rest

def plain (found : Except DefinitionError (Reached t done goals)) :
    Except DefinitionError (List String) := found.map Subtype.val

theorem plain_eq_error {found : Except DefinitionError (Reached t done goals)}
    {e : DefinitionError} (h : plain found = .error e) : found = .error e := by
  cases found with
  | error e' => exact congrArg Except.error (Except.error.inj h)
  | ok l => cases h

theorem plain_eq_ok {found : Except DefinitionError (Reached t done goals)} {l : List String}
    (h : plain found = .ok l) : ∃ settled, found = .ok settled ∧ settled.1 = l := by
  cases found with
  | error e => cases h
  | ok settled => exact ⟨settled, rfl, Except.ok.inj h⟩

theorem plain_settleAll_cons
    (settle : ∀ name done, Settled t done → Except DefinitionError (Reached t done [name]))
    (h : Settled t done) :
    plain (settleAll settle (name :: names) done h) = match settle name done h with
      | .ok mid => plain (settleAll settle names mid.1 mid.2.1)
      | .error e => .error e := by
  rw [settleAll]
  cases settle name done h with
  | error e => rfl
  | ok mid =>
    obtain ⟨mid, hm, hg, hk⟩ := mid
    simp only [bind, Except.bind]
    cases settleAll settle names mid hm with
    | error e => rfl
    | ok last =>
      obtain ⟨last, hl, hg', hk'⟩ := last
      rfl

theorem plain_settle (hd : name ∉ done) (hp : name ∉ path) (h : Settled t done) :
    plain (settle t path name done h) =
      (plain (settleAll (settle t (path ++ [name])) (t.dependencies name) done h)).map
        (name :: ·) := by
  rw [settle, dif_neg hd, dif_neg hp]
  split
  · rename_i hr
    have hnone : t.dependencies name = [] := by rw [Table.dependencies, hr]
    rw [hnone]
    rfl
  · rename_i r hr
    have hsome : t.dependencies name = r.baseDependencies := by rw [Table.dependencies, hr]
    rw [hsome]
    simp only [bind, Except.bind]
    cases settleAll (settle t (path ++ [name])) r.baseDependencies done h with
    | error e => rfl
    | ok settled =>
      obtain ⟨settled, hm, hg, hk⟩ := settled
      rfl

theorem search_settleAll (t : Table) (path names done : List String) (h : Settled t done) :
    Search t path done names (plain (settleAll (settle t path) names done h)) := by
  -- Below a name that is new to the path there are fewer names ahead.
  induction hahead : ahead t path using Nat.strong_induction_on generalizing path names done with
  | _ n ih =>
    subst hahead
    induction names generalizing done with
    | nil => exact .nil
    | cons name names ihnames =>
      rw [plain_settleAll_cons]
      by_cases hd : name ∈ done
      · rw [settle, dif_pos hd]
        exact .known hd (ihnames done h)
      · by_cases hp : name ∈ path
        · rw [settle, dif_neg hd, dif_pos hp]
          exact .closed hd hp
        · have below : Search t (path ++ [name]) done (t.dependencies name)
              (plain (settleAll (settle t (path ++ [name])) (t.dependencies name) done h)) := by
            cases hr : t.get? name with
            | none =>
              rw [Table.dependencies, hr]
              exact .nil
            | some r => exact ih _ (ahead_lt (NameMap.mem_names_of_get? hr) hp) _ _ _ h rfl
          have hstep := plain_settle hd hp h
          cases hbelow : plain (settleAll (settle t (path ++ [name])) (t.dependencies name) done h)
            with
          | error e =>
            rw [hbelow] at below hstep
            rw [plain_eq_error hstep]
            exact .failed hd hp below
          | ok settled =>
            rw [hbelow] at below hstep
            obtain ⟨mid, hmid, (hvalue : mid.1 = name :: settled)⟩ := plain_eq_ok hstep
            rw [hmid]
            refine .settled hd hp below ?_
            rw [← hvalue]
            exact ihnames mid.1 mid.2.1

/-- The order that is found, or why there is none. -/
def outcome (t : Table) : Except DefinitionError (List String) := (ofTable t).map Subtype.val

theorem search_outcome (t : Table) : Search t [] [] t.names (outcome t) := by
  have hrun := search_settleAll t [] t.names [] .nil
  have hsame : outcome t = plain (settleAll (settle t []) t.names [] .nil) := by
    unfold outcome ofTable
    simp only [bind, Except.bind]
    cases settleAll (settle t []) t.names [] .nil with
    | error e => rfl
    | ok settled =>
      obtain ⟨settled, hm, hg, hk⟩ := settled
      rfl
  rwa [hsame]

theorem isCycle_of_outcome {e : DefinitionError} (h : outcome t = .error e) :
    ∃ chain, e = .cyclicBaseRegister chain ∧ IsCycle t.get? chain := by
  refine ofTable_eq_error (t := t) ?_
  unfold outcome at h
  cases hsearch : ofTable t with
  | error e' =>
    rw [hsearch] at h
    exact congrArg Except.error (Except.error.inj h)
  | ok order =>
    rw [hsearch] at h
    cases h

theorem outcome_eq_ok_iff : (∃ order, outcome t = .ok order) ↔ Acyclic t.get? := by
  rw [← ofTable_eq_ok_iff, outcome]
  cases ofTable t with
  | error e => exact ⟨nofun, nofun⟩
  | ok order => exact ⟨fun _ => ⟨order, rfl⟩, fun _ => ⟨order.1, rfl⟩⟩

end BaseOrder

variable {layer layer' : List Register} {layers layers' : List (List Register)} {chipset : String}

theorem find?_of_perm (hp : layer.Perm layer') (h : (layer.map (·.name)).Nodup) (name : String) :
    layer'.find? (·.name = name) = layer.find? (·.name = name) := by
  refine (List.find?_eq_find?_of_perm hp ?_).symm
  rintro a ⟨ha, haname⟩ b ⟨hb, hbname⟩
  exact List.inj_on_of_nodup_map h ha hb
    ((of_decide_eq_true haname).trans (of_decide_eq_true hbname).symm)

theorem effective_of_perm (hp : List.Forall₂ List.Perm layers layers')
    (h : ∀ layer ∈ layers, (layer.map (·.name)).Nodup) (name : String) :
    effective layers' name = effective layers name := by
  induction hp with
  | nil => rfl
  | cons hlayer _ ih =>
    obtain ⟨hnodup, hrest⟩ := List.forall_mem_cons.1 h
    rw [effective_cons, effective_cons, ih hrest, find?_of_perm hlayer hnodup]

theorem nodup_of_perm (hp : List.Forall₂ List.Perm layers layers') :
    (∀ layer ∈ layers', (layer.map (·.name)).Nodup) ↔
      ∀ layer ∈ layers, (layer.map (·.name)).Nodup := by
  induction hp with
  | nil => rfl
  | cons hlayer _ ih =>
    rw [List.forall_mem_cons, List.forall_mem_cons, ih, (hlayer.map _).nodup_iff]

theorem Table.ofLayers_of_perm (hp : List.Forall₂ List.Perm layers layers')
    (h : ∀ layer ∈ layers, (layer.map (·.name)).Nodup) : ofLayers layers' = ofLayers layers := by
  apply NameMap.ext_get?
  intro name
  rw [get?_ofLayers h, get?_ofLayers ((nodup_of_perm hp).2 h), effective_of_perm hp h]

namespace Store

theorem forM_checkLayer_of_nodup (h : ∀ layer ∈ layers, (layer.map (·.name)).Nodup) :
    layers.forM (checkLayer chipset) = .ok () :=
  (forM_eq_ok_iff _ _).2 fun layer hl => (checkLayer_eq_ok_iff chipset layer).2 (h layer hl)

theorem build_of_not_nodup (h : ¬ ∀ layer ∈ layers, (layer.map (·.name)).Nodup) :
    ∃ name, build chipset layers = .error (.duplicateRegister chipset name) := by
  cases hcheck : layers.forM (checkLayer chipset) with
  | ok => exact absurd (nodup_of_forM hcheck) h
  | error e =>
    obtain ⟨layer, -, hlayer⟩ := exists_of_forM_eq_error hcheck
    unfold checkLayer at hlayer
    split at hlayer
    · rename_i name _
      refine ⟨name, ?_⟩
      unfold build
      rw [hcheck, ← Except.error.inj hlayer]
      rfl
    · cases hlayer

theorem build_of_perm (hp : List.Forall₂ List.Perm layers layers')
    (h : ∀ layer ∈ layers, (layer.map (·.name)).Nodup) :
    build chipset layers' = build chipset layers := by
  unfold build
  rw [forM_checkLayer_of_nodup h, forM_checkLayer_of_nodup ((nodup_of_perm hp).2 h),
    Table.ofLayers_of_perm hp h]

end Store

/-- The search ends for every table, with one result. An error shows a chain of bases that comes
back to where it began, and there is one exactly when such a chain exists. The order in which the
layers list their definitions plays no part, neither in what is found nor in what is built; when a
layer repeats a name, the layers are refused for that before the search. The search goes by name
everywhere. The checks before it go by name only here, so that of several failing ones the one
reported belongs to this map, and not to every map. -/
theorem search_exact (t : Table) :
    (∀ r, BaseOrder.Search t [] [] t.names r ↔ r = BaseOrder.outcome t) ∧
    (∀ e, BaseOrder.outcome t = .error e →
      ∃ chain, e = .cyclicBaseRegister chain ∧ IsCycle t.get? chain) ∧
    ((∃ order, BaseOrder.outcome t = .ok order) ↔ Acyclic t.get?) ∧
    ∀ layers layers' : List (List Register), List.Forall₂ List.Perm layers layers' →
      ((∀ layer ∈ layers, (layer.map (·.name)).Nodup) →
        (Table.ofLayers layers = t →
          BaseOrder.outcome (Table.ofLayers layers') = BaseOrder.outcome t) ∧
        ∀ chipset, Store.build chipset layers' = Store.build chipset layers) ∧
      ((¬ ∀ layer ∈ layers, (layer.map (·.name)).Nodup) → ∀ chipset,
        (∃ name, Store.build chipset layers = .error (.duplicateRegister chipset name)) ∧
        ∃ name, Store.build chipset layers' = .error (.duplicateRegister chipset name)) := by
  have hrun := BaseOrder.search_outcome t
  refine ⟨fun r => ?_, fun e he => BaseOrder.isCycle_of_outcome he, BaseOrder.outcome_eq_ok_iff,
    fun layers layers' hp => ⟨fun h => ⟨?_, ?_⟩, fun h chipset => ⟨?_, ?_⟩⟩⟩
  · exact ⟨fun h => h.deterministic hrun, fun h => h ▸ hrun⟩
  · rintro rfl
    rw [Table.ofLayers_of_perm hp h]
  · intro chipset
    exact Store.build_of_perm hp h
  · exact Store.build_of_not_nodup h
  · exact Store.build_of_not_nodup fun h' => h ((nodup_of_perm hp).1 h')

end Lockdown
