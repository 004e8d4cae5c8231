import InfraConfig.Locals.Evaluator
import Mathlib.Data.List.Chain
import Mathlib.Order.Bounds.Basic

/-! The graph of local values. A local value depends on those that its expression refers to. Local
values can be evaluated within a bound if every dependency is declared, none depends on itself
through others, and no chain of dependencies has more links than the bound (`Evaluable`). Seen
from one name this asks that what is reached from it is declared and that the chains that start at
it are bounded (`EvaluableFrom`); `evaluable_iff` ties the two. -/
namespace InfraConfig.Locals

open Relation (ReflTransGen TransGen)

/-- The expression of `a` refers to `b`. -/
def DependsOn (locals : Locals) (a b : String) : Prop :=
  ∃ expression, locals.lookup a = some expression ∧ b ∈ expression.localNames

/-- A chain of dependencies with so many links starts at the name. -/
def StartsChain (locals : Locals) (name : String) (links : Nat) : Prop :=
  ∃ rest : List String, rest.length = links ∧ (name :: rest).IsChain locals.DependsOn

/-- All local values can be evaluated if a chain may have `bound` links. -/
structure Evaluable (locals : Locals) (bound : Nat) : Prop where
  declared : ∀ a b, locals.DependsOn a b → b ∈ Keyed.keys locals
  acyclic : ∀ a, ¬ TransGen locals.DependsOn a a
  bounded : ∀ a links, locals.StartsChain a links → links ≤ bound

/-- One local value can be evaluated if a chain may have `bound` links. -/
structure EvaluableFrom (locals : Locals) (bound : Nat) (name : String) : Prop where
  declared : ∀ other, ReflTransGen locals.DependsOn name other → other ∈ Keyed.keys locals
  bounded : ∀ links, locals.StartsChain name links → links ≤ bound

variable {locals : Locals} {bound : Nat} {a b : String}

theorem DependsOn.mem_keys (h : locals.DependsOn a b) : a ∈ Keyed.keys locals := by
  obtain ⟨expression, hlookup, _⟩ := h
  exact Keyed.mem_keys_of_lookup hlookup

theorem dependsOn_iff {expression : Value} (h : locals.lookup a = some expression) :
    locals.DependsOn a b ↔ b ∈ expression.localNames := by
  simp [DependsOn, h]

/-! ### Chains -/

theorem startsChain_zero (name : String) : locals.StartsChain name 0 :=
  ⟨[], rfl, List.isChain_singleton name⟩

theorem startsChain_succ_iff {links : Nat} :
    locals.StartsChain a (links + 1) ↔ ∃ b, locals.DependsOn a b ∧ locals.StartsChain b links := by
  constructor
  · rintro ⟨rest, hlength, hchain⟩
    cases rest with
    | nil => cases hlength
    | cons b rest =>
      rw [List.isChain_cons_cons] at hchain
      exact ⟨b, hchain.1, rest, by simpa using hlength, hchain.2⟩
  · rintro ⟨b, hab, rest, hlength, hchain⟩
    exact ⟨b :: rest, by simp [hlength], List.isChain_cons_cons.2 ⟨hab, hchain⟩⟩

/-- What leads to the start of a chain starts a longer one. -/
theorem StartsChain.of_transGen {links : Nat} (hab : TransGen locals.DependsOn a b)
    (hb : locals.StartsChain b links) : ∃ longer, links < longer ∧ locals.StartsChain a longer := by
  induction hab using TransGen.head_induction_on with
  | single h => exact ⟨links + 1, by omega, startsChain_succ_iff.2 ⟨b, h, hb⟩⟩
  | head h _ ih =>
    obtain ⟨longer, hlt, hc⟩ := ih
    exact ⟨longer + 1, by omega, startsChain_succ_iff.2 ⟨_, h, hc⟩⟩

theorem StartsChain.of_reflTransGen {links : Nat} (hab : ReflTransGen locals.DependsOn a b)
    (hb : locals.StartsChain b links) : ∃ longer, links ≤ longer ∧ locals.StartsChain a longer := by
  rcases Relation.reflTransGen_iff_eq_or_transGen.1 hab with rfl | htrans
  · exact ⟨links, Nat.le_refl links, hb⟩
  · obtain ⟨longer, hlt, hchain⟩ := StartsChain.of_transGen htrans hb
    exact ⟨longer, by omega, hchain⟩

/-- On a cycle chains never end. -/
theorem StartsChain.of_cycle (h : TransGen locals.DependsOn a a) (links : Nat) :
    ∃ longer, links < longer ∧ locals.StartsChain a longer := by
  induction links with
  | zero => exact StartsChain.of_transGen h (startsChain_zero a)
  | succ links ih =>
    obtain ⟨longer, hlt, hchain⟩ := ih
    obtain ⟨longest, hlt', hchain'⟩ := StartsChain.of_transGen h hchain
    exact ⟨longest, by omega, hchain'⟩

/-- A chain that comes back to a name closes a cycle. -/
theorem transGen_of_isChain {front : List String} (h : (front ++ [a]).IsChain locals.DependsOn)
    (hmem : a ∈ front) : TransGen locals.DependsOn a a := by
  obtain ⟨before, after, rfl⟩ := List.append_of_mem hmem
  have hcycle : (a :: (after ++ [a])).IsChain locals.DependsOn := by
    rw [List.append_assoc] at h
    exact h.right_of_append
  exact (hcycle.imp fun _ _ => TransGen.single).rel_cons (by simp)

/-- Whatever stands on a chain is reached from its first name. -/
theorem reflTransGen_of_isChain {path : List String} (h : path.IsChain locals.DependsOn)
    (hhead : [a] <+: path) (hmem : b ∈ path) : ReflTransGen locals.DependsOn a b := by
  obtain ⟨rest, rfl⟩ := hhead
  rcases List.mem_cons.1 hmem with rfl | hrest
  · exact ReflTransGen.refl
  · exact (h.imp fun _ _ => ReflTransGen.single).rel_cons hrest

/-! ### One name and all names -/

theorem EvaluableFrom.of_dependsOn (h : locals.EvaluableFrom bound a) (hab : locals.DependsOn a b) :
    b ∈ Keyed.keys locals :=
  h.declared b (.single hab)

theorem evaluable_iff :
    locals.Evaluable bound ↔ ∀ name ∈ Keyed.keys locals, locals.EvaluableFrom bound name := by
  constructor
  · intro h name hname
    refine ⟨fun other hreach => ?_, h.bounded name⟩
    cases hreach with
    | refl => exact hname
    | tail _ hlast => exact h.declared _ _ hlast
  · intro h
    refine ⟨fun a b hab => (h a hab.mem_keys).of_dependsOn hab, fun a hcycle => ?_, ?_⟩
    · obtain ⟨b, hab, _⟩ := TransGen.head'_iff.1 hcycle
      obtain ⟨longer, hlt, hchain⟩ := StartsChain.of_cycle hcycle bound
      have := (h a hab.mem_keys).bounded longer hchain
      omega
    · intro a links hchain
      cases links with
      | zero => omega
      | succ links =>
        obtain ⟨b, hab, _⟩ := startsChain_succ_iff.1 hchain
        exact (h a hab.mem_keys).bounded _ hchain

/-- Whether local values can be evaluated is read off what each name is declared as. -/
theorem Evaluable.of_lookup {locals' : Locals} (h : locals.Evaluable bound)
    (hsame : ∀ name, locals'.lookup name = locals.lookup name) : locals'.Evaluable bound := by
  have hdepends : locals'.DependsOn = locals.DependsOn := by
    funext a b
    simp only [DependsOn, hsame]
  have hkeys : ∀ name, name ∈ Keyed.keys locals' ↔ name ∈ Keyed.keys locals := by
    intro name
    simp only [Keyed.mem_keys_iff, hsame]
  constructor
  · intro a b hab
    rw [hdepends] at hab
    exact (hkeys b).2 (h.declared a b hab)
  · rw [hdepends]
    exact h.acyclic
  · rintro a links ⟨rest, hlength, hchain⟩
    rw [hdepends] at hchain
    exact h.bounded a links ⟨rest, hlength, hchain⟩

end InfraConfig.Locals
