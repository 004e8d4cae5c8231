/-! A record of what happened. `Traced α` is a value together with the records noted on the way to
it, in order. What a computation yields does not depend on its records: `value` commutes with
sequencing (`value_bind`), so that statements about values leave the records aside. -/
namespace InfraConfig

/-- One record: a message and named details. -/
structure Record where
  message : String
  details : List (String × String)
deriving DecidableEq, Repr

/-- A value and the records noted on the way to it. -/
structure Traced (α : Type u) where
  value : α
  records : List Record

namespace Traced

instance : Monad Traced where
  pure a := ⟨a, []⟩
  bind x f := ⟨(f x.value).value, x.records ++ (f x.value).records⟩

/-- Notes a message with details. -/
def note (message : String) (details : List (String × String)) : Traced Unit :=
  ⟨(), [⟨message, details⟩]⟩

@[simp] theorem value_pure {α : Type u} (a : α) : (pure a : Traced α).value = a := rfl

@[simp] theorem value_bind {α β : Type u} (x : Traced α) (f : α → Traced β) :
    (x >>= f).value = (f x.value).value := rfl

@[simp] theorem records_pure {α : Type u} (a : α) : (pure a : Traced α).records = [] := rfl

@[simp] theorem records_bind {α β : Type u} (x : Traced α) (f : α → Traced β) :
    (x >>= f).records = x.records ++ (f x.value).records := rfl

@[simp] theorem value_map {α β : Type u} (f : α → β) (x : Traced α) :
    (f <$> x).value = f x.value := rfl

@[simp] theorem records_map {α β : Type u} (f : α → β) (x : Traced α) :
    (f <$> x).records = x.records := by
  show x.records ++ [] = x.records
  exact List.append_nil _

instance : LawfulMonad Traced := LawfulMonad.mk' Traced
  (fun x => by cases x; simp [Functor.map])
  (fun a f => by simp [bind, pure])
  (fun x f g => by simp [bind, List.append_assoc])

end Traced

end InfraConfig
