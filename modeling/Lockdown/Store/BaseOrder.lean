import Lockdown.Register
import Lockdown.Store.Error
/-!
An order in which base registers can be resolved. The search visits a register after the
registers it depends on, so what it returns is evidence that no chain of bases is cyclic: every
name comes with its dependencies behind it, and `depth` counts down along each chain.
-/
namespace Lockdown

abbrev Table := NameMap Register

/-- An undefined register depends on nothing. -/
def Table.dependencies (t : Table) (name : String) : List String :=
  match t.get? name with
  | some r => r.baseDependencies
  | none => []

/-- Each name stands before all the names it depends on. -/
inductive Settled (t : Table) : List String → Prop
  | nil : Settled t []
  | cons {name : String} {done : List String} (behind : ∀ d ∈ t.dependencies name, d ∈ done)
      (rest : Settled t done) : Settled t (name :: done)

namespace Settled

variable {t : Table} {l : List String} {x d : String}

theorem mem_of_dependency (h : Settled t l) (hx : x ∈ l) (hd : d ∈ t.dependencies x) : d ∈ l := by
  induction h with
  | nil => cases hx
  | cons behind _ ih =>
    rcases List.mem_cons.1 hx with rfl | hx
    · exact List.mem_cons_of_mem _ (behind d hd)
    · exact List.mem_cons_of_mem _ (ih hx)

def depth : List String → String → Nat
  | [], _ => 0
  | n :: rest, x => if x ∈ rest then depth rest x else if x = n then rest.length + 1 else 0

theorem depth_le_length (l : List String) (x : String) : depth l x ≤ l.length := by
  induction l with
  | nil => simp [depth]
  | cons n rest ih =>
    unfold depth
    split
    · exact Nat.le_succ_of_le ih
    · split <;> simp

theorem depth_lt (h : Settled t l) (hx : x ∈ l) (hd : d ∈ t.dependencies x) :
    depth l d < depth l x := by
  induction h with
  | nil => cases hx
  | @cons n done behind rest ih =>
    by_cases hm : x ∈ done
    · have hdm := mem_of_dependency rest hm hd
      simpa [depth, hm, hdm] using ih hm
    · obtain rfl : x = n := (List.mem_cons.1 hx).resolve_right hm
      have hdm := behind d hd
      have := depth_le_length done d
      simp only [depth, hm, hdm, ↓reduceIte]
      omega

end Settled

namespace BaseOrder

variable {t : Table}

/-- Settled names that include the goals and all that was settled before. -/
abbrev Reached (t : Table) (done goals : List String) :=
  { l : List String // Settled t l ∧ (∀ g ∈ goals, g ∈ l) ∧ ∀ n ∈ done, n ∈ l }

def settleAll
    (settle : ∀ name done, Settled t done → Except DefinitionError (Reached t done [name])) :
    ∀ names done, Settled t done → Except DefinitionError (Reached t done names)
  | [], done, h => .ok ⟨done, h, by simp, fun _ => id⟩
  | name :: names, done, h => do
    let ⟨mid, hm, hg, hk⟩ ← settle name done h
    let ⟨last, hl, hg', hk'⟩ ← settleAll settle names mid hm
    .ok ⟨last, hl, by
      intro g hgm
      rcases List.mem_cons.1 hgm with rfl | hgm
      · exact hk' _ (hg _ (by simp))
      · exact hg' _ hgm, fun n hn => hk' _ (hk _ hn)⟩

def ahead (t : Table) (path : List String) : Nat := (t.names.filter fun n => n ∉ path).length

theorem ahead_lt {path : List String} {name : String} (hn : name ∈ t.names) (hp : name ∉ path) :
    ahead t (path ++ [name]) < ahead t path := by
  have sub : (t.names.filter fun n => n ∉ path ++ [name]) =
      (t.names.filter fun n => n ∉ path).filter (· ≠ name) := by
    rw [List.filter_filter]
    congr 1
    funext n
    simp [not_or, Bool.and_comm]
  unfold ahead
  rw [sub]
  apply List.length_filter_lt_length_iff_exists.2
  exact ⟨name, by simp [hn, hp], by simp⟩

/-- Settle one name and, first, what it depends on. `path` leads from the name the search began
with down to here; meeting a name on it again closes a cycle. -/
def settle (t : Table) (path : List String) (name : String) (done : List String)
    (h : Settled t done) : Except DefinitionError (Reached t done [name]) :=
  if hd : name ∈ done then .ok ⟨done, h, by simpa using hd, fun _ => id⟩
  else if hp : name ∈ path then
    .error (.cyclicBaseRegister (path.dropWhile (· ≠ name) ++ [name]))
  else
    match hr : t.get? name with
    | none =>
      .ok ⟨name :: done, .cons (by simp [Table.dependencies, hr]) h, by simp,
        fun n hn => List.mem_cons_of_mem _ hn⟩
    | some r => do
      let ⟨mid, hm, hg, hk⟩ ← settleAll
        (fun n d hd => settle t (path ++ [name]) n d hd) r.baseDependencies done h
      .ok ⟨name :: mid, .cons (by simpa [Table.dependencies, hr] using hg) hm, by simp,
        fun n hn => List.mem_cons_of_mem _ (hk n hn)⟩
termination_by ahead t path
decreasing_by exact ahead_lt (NameMap.mem_names_of_get? hr) hp

def ofTable (t : Table) :
    Except DefinitionError { l : List String // Settled t l ∧ ∀ n ∈ t.names, n ∈ l } := do
  let ⟨l, h, hg, _⟩ ← settleAll (settle t []) t.names [] .nil
  .ok ⟨l, h, hg⟩

end BaseOrder

end Lockdown
