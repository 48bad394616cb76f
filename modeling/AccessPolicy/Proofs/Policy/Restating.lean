import AccessPolicy.Proofs.Condition.Alike
import AccessPolicy.Proofs.Policy.DocumentReader

/-! Documents that say the same in other words: with other orders and repetitions in their lists. -/

namespace AccessPolicy

/-- Two blocks name the same principals, kind by kind. -/
inductive PrincipalBlock.Restates : PrincipalBlock → PrincipalBlock → Prop where
  | everyone : Restates .everyone .everyone
  | listed {lists others : PrincipalLists}
      (each : ∀ kind, SameMembers (lists.of kind) (others.of kind)) :
      Restates (.listed lists) (.listed others)

/-- A block names the same principals as itself. -/
theorem PrincipalBlock.Restates.refl (block : PrincipalBlock) : block.Restates block := by
  cases block with
  | everyone => exact .everyone
  | listed lists => exact .listed fun kind => .refl _

/-- Blocks that name the same principals list the same ones of each kind. -/
theorem PrincipalBlock.Restates.lists {block other : PrincipalBlock}
    (restates : block.Restates other) (kind : PrincipalKind) :
    SameMembers (block.lists.of kind) (other.lists.of kind) := by
  cases restates with
  | everyone => exact .refl _
  | listed each => exact each kind

namespace Policy

/-- Two selections are meant in the same way, and what they name is the same in other words. -/
inductive Selection.Restates {α : Type} (same : α → α → Prop) :
    Selection α → Selection α → Prop where
  | only {named others : α} (alike : same named others) : Restates same (.only named) (.only others)
  | allBut {named others : α} (alike : same named others) :
      Restates same (.allBut named) (.allBut others)

/-- What two selections name is the same in other words. -/
theorem Selection.Restates.named {α : Type} {same : α → α → Prop} {selection other : Selection α}
    (restates : selection.Restates same other) : same selection.named other.named := by
  cases restates with
  | only alike => exact alike
  | allBut alike => exact alike

/-- Selections cover alike where the same in other words is tested alike. -/
theorem Selection.Restates.covers_eq {α : Type} {same : α → α → Prop} {selection other : Selection α}
    (restates : selection.Restates same other) {test again : α → Bool}
    (alike : ∀ named others, same named others → test named = again others) :
    selection.covers test = other.covers again := by
  cases restates with
  | only restated => exact alike _ _ restated
  | allBut restated => exact congrArg not (alike _ _ restated)

/-- Two statements at one place say the same, with lists of the same members. -/
structure Statement.Restates (statement other : Statement) : Prop where
  index : statement.index = other.index
  sid : statement.sid = other.sid
  effect : statement.effect = other.effect
  action : statement.action.Restates SameMembers other.action
  resource : statement.resource.Restates SameMembers other.resource
  principal : Option.Rel (Selection.Restates PrincipalBlock.Restates) statement.principal
    other.principal
  condition : Rearranged Condition.Entry.Alike (statement.condition.getD [])
    (other.condition.getD [])

/-- Two documents have the same version, and statements that say the same one by one. -/
structure Document.Restates (document other : Document) : Prop where
  version : document.version = other.version
  statements : List.Forall₂ Statement.Restates document.statements other.statements

/-- An entry that asks for the same as a suitable one is suitable. -/
theorem suitable_of_alike {entry other : Condition.Entry} (alike : entry.Alike other)
    (suitable : entry.Suitable) : other.Suitable where
  readable := fun value inside =>
    alike.operator ▸ suitable.readable value ((alike.values value).mpr inside)
  single := fun presence => by
    have presenceToo : entry.operator.base = .null := alike.operator ▸ presence
    rw [← alike.presence presenceToo]
    exact suitable.single presenceToo

/-- A statement that says the same as a lawful one is lawful. -/
theorem Statement.Restates.lawful {statement other : Statement}
    (restates : statement.Restates other) (lawful : statement.Lawful) : other.Lawful where
  action := fun pattern inside =>
    lawful.action pattern ((restates.action.named pattern).mpr inside)
  resource := fun pattern inside =>
    lawful.resource pattern ((restates.resource.named pattern).mpr inside)
  principal := by
    intro selection there name inside
    obtain ⟨old, found, same⟩ := rel_some_right_iff.mp (there ▸ restates.principal)
    exact lawful.principal old found name ((same.named.lists .aws name).mpr inside)
  condition := by
    intro entry inside
    obtain ⟨old, there, alike⟩ := restates.condition.exists_of_mem_back inside
    exact suitable_of_alike alike (lawful.condition old there)

/-- A document that says the same as a lawful one is lawful. -/
theorem Document.Restates.lawful {document other : Document} (restates : document.Restates other)
    (lawful : document.Lawful) : other.Lawful where
  version := restates.version ▸ lawful.version
  statements := by
    intro statement inside
    obtain ⟨old, there, same⟩ := exists_of_mem_left restates.statements.flip inside
    exact same.lawful (lawful.statements old there)

end Policy

end AccessPolicy
