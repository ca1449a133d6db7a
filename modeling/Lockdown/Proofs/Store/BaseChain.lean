import Lockdown.Store
import Lockdown.Proofs.NameMap
import Lockdown.Proofs.Sequence
import Mathlib.Data.List.Chain
import Mathlib.Data.List.Nodup
import Mathlib.Logic.Relation

/-! The search for an order of the bases succeeds exactly when no chain of bases comes back to
where it began. An order rules cycles out because depth falls along it; a refusal exhibits one. -/
namespace Lockdown

variable {look : String → Option Register} {t : Table} {name d : String} {chain : List String}

/-- Register `d` is read to find the place of register `name`. -/
def DependsOn (look : String → Option Register) (name d : String) : Prop :=
  ∃ r, look name = some r ∧ d ∈ r.baseDependencies

abbrev BasedOn (look : String → Option Register) : String → String → Prop :=
  Relation.ReflTransGen (DependsOn look)

def Acyclic (look : String → Option Register) : Prop :=
  ∀ name, ¬ Relation.TransGen (DependsOn look) name name

/-- From a register through its bases back to it, with nothing met twice on the way. -/
structure IsCycle (look : String → Option Register) (chain : List String) : Prop where
  long : 2 ≤ chain.length
  closed : chain.head? = chain.getLast?
  simple : chain.dropLast.Nodup
  linked : chain.IsChain (DependsOn look)

theorem IsCycle.not_acyclic (h : IsCycle look chain) : ¬ Acyclic look := by
  intro hacyclic
  obtain ⟨long, closed, -, linked⟩ := h
  match chain, long with
  | a :: b :: rest, _ =>
    obtain ⟨hab, hrest⟩ := List.isChain_cons_cons.1 linked
    have hlast : (b :: rest).getLast (List.cons_ne_nil _ _) = a := by
      rw [List.getLast?_cons_cons, List.getLast?_eq_getLast_of_ne_nil (List.cons_ne_nil _ _)]
        at closed
      exact (Option.some.inj closed).symm
    have hback := List.relationReflTransGen_of_exists_isChain_cons rest hrest hlast
    exact hacyclic a (.head' hab hback)

theorem dependsOn_iff : DependsOn t.get? name d ↔ d ∈ t.dependencies name := by
  unfold DependsOn Table.dependencies
  cases t.get? name <;> simp

theorem acyclic_of_falling (rank : String → Nat)
    (h : ∀ {a b}, DependsOn look a b → rank b < rank a) : Acyclic look := by
  have hfall : ∀ {a b}, Relation.TransGen (DependsOn look) a b → rank b < rank a := by
    intro a b hab
    induction hab with
    | single hstep => exact h hstep
    | tail _ hstep ih => exact Nat.lt_trans (h hstep) ih
  exact fun name hname => Nat.lt_irrefl _ (hfall hname)

theorem Settled.acyclic {order : List String} (h : Settled t order)
    (complete : ∀ n ∈ t.names, n ∈ order) : Acyclic t.get? := by
  refine acyclic_of_falling (Settled.depth order) ?_
  intro a b hab
  obtain ⟨r, hr, -⟩ := id hab
  exact h.depth_lt (complete a (NameMap.mem_names_of_get? hr)) (dependsOn_iff.1 hab)

namespace BaseOrder

theorem isCycle_of_mem {path : List String} (hnd : path.Nodup)
    (hlink : (path ++ [name]).IsChain (DependsOn look)) (hmem : name ∈ path) :
    IsCycle look (path.dropWhile (· ≠ name) ++ [name]) := by
  obtain ⟨front, back, rfl, hfront⟩ := List.eq_append_cons_of_mem hmem
  have hdrop : (front ++ name :: back).dropWhile (· ≠ name) = name :: back := by
    rw [List.dropWhile_append_of_pos, List.dropWhile_cons_of_neg]
    · simp
    · intro x hx
      simpa using fun he : x = name => hfront (he ▸ hx)
  rw [hdrop]
  refine ⟨by simp, ?_, ?_, ?_⟩
  · rw [List.getLast?_concat, List.cons_append, List.head?_cons]
  · rw [List.dropLast_concat]
    exact (List.nodup_append.1 hnd).2.1
  · rw [List.append_assoc] at hlink
    exact hlink.right_of_append

theorem settleAll_eq_error
    {settle : ∀ name done, Settled t done → Except DefinitionError (Reached t done [name])}
    {names done : List String} {h : Settled t done} {e : DefinitionError}
    (he : settleAll settle names done h = .error e) :
    ∃ n ∈ names, ∃ (done' : List String) (h' : Settled t done'), settle n done' h' = .error e := by
  induction names generalizing done with
  | nil => simp [settleAll] at he
  | cons n rest ih =>
    rw [settleAll, bind_eq_error_iff] at he
    rcases he with hn | ⟨⟨mid, hm, hg, hk⟩, -, he⟩
    · exact ⟨n, List.mem_cons_self, done, h, hn⟩
    · rcases bind_eq_error_iff.1 he with hrest | ⟨⟨last, _, _, _⟩, -, he⟩
      · obtain ⟨m, hmem, hfail⟩ := ih hrest
        exact ⟨m, List.mem_cons_of_mem _ hmem, hfail⟩
      · cases he

theorem settle_eq_error {path done : List String} {h : Settled t done} {e : DefinitionError}
    (hnd : path.Nodup) (hlink : (path ++ [name]).IsChain (DependsOn t.get?))
    (he : settle t path name done h = .error e) :
    ∃ chain, e = .cyclicBaseRegister chain ∧ IsCycle t.get? chain := by
  -- The path grows by one dependency at a time, so what closes on it is a chain of bases.
  induction path, name, done, h using settle.induct t with
  | case1 path name done h hdone =>
    rw [settle] at he
    simp [hdone] at he
  | case2 path name done h hdone hmem =>
    rw [settle] at he
    simp only [hdone, ↓reduceDIte, hmem, Except.error.injEq] at he
    exact ⟨_, he.symm, isCycle_of_mem hnd hlink hmem⟩
  | case3 path name done h hdone hmem hr =>
    rw [settle] at he
    simp only [hdone, ↓reduceDIte, hmem] at he
    split at he
    · cases he
    · simp_all
  | case4 path name done h hdone hmem r hr ih =>
    rw [settle] at he
    simp only [hdone, ↓reduceDIte, hmem] at he
    split at he
    · cases he
    · rename_i q hq
      obtain rfl : r = q := Option.some.inj (hr.symm.trans hq)
      rcases bind_eq_error_iff.1 he with hall | ⟨⟨mid, _, _, _⟩, -, he⟩
      · obtain ⟨n, hn, done', h', hfail⟩ := settleAll_eq_error hall
        refine ih n done' h' ?_ ?_ hfail
        · rw [← List.concat_eq_append]
          exact List.Nodup.concat hmem hnd
        · refine hlink.append (.singleton n) ?_
          simpa using ⟨r, hr, hn⟩
      · cases he

theorem ofTable_eq_error {e : DefinitionError} (he : ofTable t = .error e) :
    ∃ chain, e = .cyclicBaseRegister chain ∧ IsCycle t.get? chain := by
  rcases bind_eq_error_iff.1 he with hall | ⟨⟨order, _, _, _⟩, -, he⟩
  · obtain ⟨n, -, done, h, hfail⟩ := settleAll_eq_error hall
    have hempty : ([] : List String).Nodup := List.nodup_nil
    exact settle_eq_error hempty (.singleton n) hfail
  · cases he

theorem ofTable_eq_ok_iff : (∃ order, ofTable t = .ok order) ↔ Acyclic t.get? := by
  constructor
  · rintro ⟨⟨order, h, complete⟩, -⟩
    exact h.acyclic complete
  · intro hacyclic
    cases hsearch : ofTable t with
    | ok order => exact ⟨order, rfl⟩
    | error e =>
      obtain ⟨chain, -, hcycle⟩ := ofTable_eq_error hsearch
      exact absurd hacyclic hcycle.not_acyclic

end BaseOrder

namespace Store

theorem depth_lt_of_dependsOn (s : Store) (h : DependsOn s.get? name d) :
    s.depth d < s.depth name := by
  obtain ⟨r, hr, hd⟩ := h
  exact s.depth_lt hr hd

/-- Whoever walks the bases of a store comes to an end. -/
theorem wellFounded_dependsOn (s : Store) : WellFounded fun d name => DependsOn s.get? name d :=
  Subrelation.wf s.depth_lt_of_dependsOn (InvImage.wf s.depth Nat.lt_wfRel.wf)

theorem acyclic (s : Store) : Acyclic s.get? := acyclic_of_falling s.depth s.depth_lt_of_dependsOn

end Store

end Lockdown
