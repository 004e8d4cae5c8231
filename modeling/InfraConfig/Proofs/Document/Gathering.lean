import InfraConfig.Document.Declarations

/-! Bodies with blocks in them. The blocks of a body are written one after the other into the
attributes, each under its identifier: into the list that is there, or into a new one that starts
with what was there. One step of that is `elements_withBlock`, and what all steps leave under an
identifier and which keys they leave follows by induction on the blocks (`lookup_gather`,
`keys_gather`). So of a body whose attributes are distinct nothing is lost, and nothing is made up
(`gathered_members`); the bodies within the body are made in the same way. -/
namespace InfraConfig

/-- The items of a list; any other value is the only element of itself. -/
def Value.elements : Value → List Value
  | .list items => items
  | other => [other]

namespace Document

/-- What is to be found under a key, as elements. -/
def elementsAt (members : Keyed Value) (key : String) : List Value :=
  ((members.lookup key).map Value.elements).getD []

/-- The bodies of the blocks with an identifier, in order. -/
def bodiesOf (blocks : List Block) (ident : String) : List Value :=
  (blocks.filter (·.ident = ident)).map fun block => .object block.members

/-! ### One block -/

/-- A block is added behind what is there. -/
theorem elements_withBlock (present : Option Value) (block : Value) :
    withBlock present block = .list ((present.map Value.elements).getD [] ++ [block]) := by
  cases present with
  | none => rfl
  | some value => cases value <;> rfl

theorem gather_cons (members : Keyed Value) (block : Block) (rest : List Block) :
    gather members (block :: rest) =
      gather (Keyed.insert members block.ident
        (.list (elementsAt members block.ident ++ [.object block.members]))) rest := by
  rw [gather, elements_withBlock]
  rfl

theorem bodiesOf_cons_self (block : Block) (rest : List Block) :
    bodiesOf (block :: rest) block.ident = .object block.members :: bodiesOf rest block.ident := by
  simp [bodiesOf]

theorem bodiesOf_cons_of_ne {block : Block} {ident : String} (h : ident ≠ block.ident)
    (rest : List Block) : bodiesOf (block :: rest) ident = bodiesOf rest ident := by
  simp [bodiesOf, Ne.symm h]

theorem bodiesOf_eq_nil {blocks : List Block} {ident : String}
    (h : ident ∉ blocks.map (·.ident)) : bodiesOf blocks ident = [] := by
  rw [bodiesOf, List.map_eq_nil_iff, List.filter_eq_nil_iff]
  intro block hblock hident
  exact h (List.mem_map.2 ⟨block, hblock, of_decide_eq_true hident⟩)

theorem elementsAt_insert_self (members : Keyed Value) (key : String) (items : List Value) :
    elementsAt (Keyed.insert members key (.list items)) key = items := by
  rw [elementsAt, Keyed.lookup_insert_self]
  rfl

theorem elementsAt_insert_of_ne (members : Keyed Value) {key other : String} (value : Value)
    (h : other ≠ key) : elementsAt (Keyed.insert members key value) other = elementsAt members other := by
  rw [elementsAt, Keyed.lookup_insert_of_ne members value h, elementsAt]

/-! ### All blocks -/

theorem lookup_gather_of_not_mem {blocks : List Block} {key : String} (members : Keyed Value)
    (h : key ∉ blocks.map (·.ident)) : (gather members blocks).lookup key = members.lookup key := by
  induction blocks generalizing members with
  | nil => rw [gather]
  | cons block rest ih =>
    obtain ⟨hblock, hrest⟩ := not_or.1 (mt List.mem_cons.2 h)
    rw [gather_cons, ih _ hrest, Keyed.lookup_insert_of_ne members _ hblock]

/-- Under an identifier stands what was there, with the bodies of its blocks behind it. -/
theorem lookup_gather {blocks : List Block} {ident : String} (members : Keyed Value)
    (h : ident ∈ blocks.map (·.ident)) :
    (gather members blocks).lookup ident =
      some (.list (elementsAt members ident ++ bodiesOf blocks ident)) := by
  induction blocks generalizing members with
  | nil => cases h
  | cons block rest ih =>
    rw [gather_cons]
    by_cases hident : ident = block.ident
    · subst hident
      rw [bodiesOf_cons_self]
      by_cases hrest : block.ident ∈ rest.map (·.ident)
      · rw [ih _ hrest, elementsAt_insert_self, List.append_assoc, List.singleton_append]
      · rw [lookup_gather_of_not_mem _ hrest, Keyed.lookup_insert_self, bodiesOf_eq_nil hrest]
    · have hrest : ident ∈ rest.map (·.ident) := (List.mem_cons.1 h).resolve_left hident
      rw [ih _ hrest, elementsAt_insert_of_ne members _ hident, bodiesOf_cons_of_ne hident]

/-- Identifiers that are not there yet are put behind the keys that are, each once, in the order of
their first blocks. -/
theorem keys_gather (members : Keyed Value) (blocks : List Block) :
    Keyed.keys (gather members blocks) = Keyed.keys members ++
      ((blocks.map (·.ident)).filter (· ∉ Keyed.keys members)).eraseDups := by
  induction blocks generalizing members with
  | nil => simp [gather]
  | cons block rest ih =>
    rw [gather_cons, ih, Keyed.keys_insert, List.map_cons]
    split
    · next hknown => rw [List.filter_cons_of_neg (by simpa using hknown)]
    · next hnew =>
      rw [List.filter_cons_of_pos (by simpa using hnew), List.eraseDups_cons, List.filter_filter,
        List.append_assoc, List.singleton_append]
      congr 4
      funext ident
      simp [and_comm, Bool.beq_eq_decide_eq]

theorem nodup_keys_gather {members : Keyed Value} (blocks : List Block)
    (h : (Keyed.keys members).Nodup) : (Keyed.keys (gather members blocks)).Nodup := by
  induction blocks generalizing members with
  | nil => rwa [gather]
  | cons block rest ih =>
    rw [gather_cons]
    exact ih (Keyed.nodup_keys_insert _ _ h)

/-! ### Bodies -/

/-- The members that a body declares. -/
structure Block.Gathered (block : Block) (members : Keyed Value) : Prop where
  /-- The keys are those of the attributes, and behind them the identifiers of blocks that are not
  among them, in the order of their first blocks. -/
  keys : Keyed.keys members = block.attributes.map (·.key) ++
    ((block.blocks.map (·.ident)).filter (· ∉ block.attributes.map (·.key))).eraseDups
  nodup : (Keyed.keys members).Nodup
  /-- Under an identifier that is no key of an attribute stand the bodies of its blocks. -/
  blocks : ∀ ident ∈ block.blocks.map (·.ident), ident ∉ block.attributes.map (·.key) →
    members.lookup ident = some (.list (bodiesOf block.blocks ident))
  /-- Under one that is a key stand the elements of the attribute before them. -/
  both : ∀ entry ∈ block.attributes, entry.key ∈ block.blocks.map (·.ident) →
    members.lookup entry.key =
      some (.list (entry.value.value.elements ++ bodiesOf block.blocks entry.key))
  attributes : ∀ entry ∈ block.attributes, entry.key ∉ block.blocks.map (·.ident) →
    members.lookup entry.key = some entry.value.value

section Attributes
variable {attributes : List Attribute} (hdistinct : (attributes.map (·.key)).Nodup)

theorem keys_pairs (attributes : List Attribute) :
    Keyed.keys (attributes.map fun entry => (entry.key, entry.value.value)) =
      attributes.map (·.key) := by
  rw [Keyed.keys, List.map_map]
  rfl

include hdistinct

theorem attributeValues_of_nodup :
    attributeValues attributes = attributes.map fun entry => (entry.key, entry.value.value) :=
  Keyed.ofList_of_nodup (by rwa [keys_pairs])

theorem keys_attributeValues : Keyed.keys (attributeValues attributes) = attributes.map (·.key) := by
  rw [attributeValues_of_nodup hdistinct, keys_pairs]

theorem lookup_attributeValues {entry : Attribute} (h : entry ∈ attributes) :
    (attributeValues attributes).lookup entry.key = some entry.value.value := by
  have hkeys := keys_attributeValues hdistinct
  apply Keyed.lookup_of_mem (by rwa [hkeys])
  rw [attributeValues_of_nodup hdistinct]
  exact List.mem_map.2 ⟨entry, h, rfl⟩

end Attributes

/-- In what a body with distinct attributes declares, no block is lost and no attribute, and there is
nothing else. -/
theorem Block.gathered_members (block : Block) (h : (block.attributes.map (·.key)).Nodup) :
    block.Gathered block.members := by
  obtain ⟨ident, labels, attributes, blocks⟩ := block
  have hkeys : Keyed.keys (attributeValues attributes) = attributes.map (·.key) :=
    keys_attributeValues h
  rw [Block.members]
  constructor
  case keys => rw [keys_gather, hkeys]
  case nodup => exact nodup_keys_gather blocks (by rwa [hkeys])
  case blocks =>
    intro ident hident hnew
    have hnone : (attributeValues attributes).lookup ident = none :=
      Keyed.lookup_eq_none_iff.2 (by rwa [hkeys])
    rw [lookup_gather _ hident, elementsAt, hnone]
    rfl
  case both =>
    intro entry hentry hident
    rw [lookup_gather _ hident, elementsAt, lookup_attributeValues h hentry]
    rfl
  case attributes =>
    intro entry hentry hident
    rw [lookup_gather_of_not_mem _ hident, lookup_attributeValues h hentry]

/-- A text and a list that blocks are added to, and a block within a block. -/
theorem Block.gathered_members_mixed :
    ((⟨"service", [], [⟨"rule", .quoted ['a'], []⟩, ⟨"size", .null, []⟩, ⟨"tags", .list [.null], []⟩],
      [⟨"rule", [], [], [⟨"port", [], [], []⟩]⟩, ⟨"item", [], [], []⟩, ⟨"tags", [], [], []⟩,
        ⟨"rule", [], [], []⟩]⟩ : Block).attributes.map (·.key)).Nodup ∧
    Block.Gathered ⟨"service", [],
      [⟨"rule", .quoted ['a'], []⟩, ⟨"size", .null, []⟩, ⟨"tags", .list [.null], []⟩],
      [⟨"rule", [], [], [⟨"port", [], [], []⟩]⟩, ⟨"item", [], [], []⟩, ⟨"tags", [], [], []⟩,
        ⟨"rule", [], [], []⟩]⟩
      [("rule", .list [.string "a", .object [("port", .list [.object []])], .object []]),
        ("size", .null), ("tags", .list [.null, .object []]), ("item", .list [.object []])] :=
  ⟨by decide, gathered_members _ (by decide)⟩

end Document

end InfraConfig
