import Mathlib.Logic.Relation
import AccessPolicy.Proofs.Json.Revision
import AccessPolicy.Proofs.Policy.Writing

/-! Other ways to write a policy that are meant to say the same, one change at a time. -/

namespace AccessPolicy.Policy

/-- Texts are put into a list, taken out of one, moved within it, or repeated. -/
inductive RewordsTexts : Json → Json → Prop where
  | wrapped (text : String) : RewordsTexts (.string text) (.array [.string text])
  | unwrapped (text : String) : RewordsTexts (.array [.string text]) (.string text)
  | moved {items others : List Json} (perm : items.Perm others) :
      RewordsTexts (.array items) (.array others)
  | repeated {items : List Json} {item : Json} (there : item ∈ items) :
      RewordsTexts (.array items) (.array (item :: items))

/-- A truth value or a whole number is written out as its text. -/
inductive WritesOut : Json → Json → Prop where
  | truth (truth : Bool) : WritesOut (.bool truth) (.string (if truth then "true" else "false"))
  | whole (number : Int) : WritesOut (.int number) (.string (Number.intText number))

/-- Values of an operator are rewritten; only those of the test for presence are not repeated. -/
inductive RewordsValues (operator : String) : Json → Json → Prop where
  | wrapped {value : Json} {text : String} (scalar : WritesScalar value text) :
      RewordsValues operator value (.array [value])
  | unwrapped {value : Json} {text : String} (scalar : WritesScalar value text) :
      RewordsValues operator (.array [value]) value
  | written {value other : Json} (out : WritesOut value other) :
      RewordsValues operator value other
  | writtenItem {earlier later : List Json} {value other : Json} (out : WritesOut value other) :
      RewordsValues operator (.array (earlier ++ value :: later))
        (.array (earlier ++ other :: later))
  | moved {items others : List Json} (comparing : operator ≠ "Null") (perm : items.Perm others) :
      RewordsValues operator (.array items) (.array others)
  | repeated {items : List Json} {item : Json} (comparing : operator ≠ "Null")
      (there : item ∈ items) : RewordsValues operator (.array items) (.array (item :: items))

/-- The principals of one kind are rewritten; the wildcard for all of them is in no list. -/
def RewordsBlock : Json → Json → Prop :=
  -- All kinds are rewritten alike.
  Json.MemberChanged fun _ => RewordsTexts

/-- The values of one key of an operator are rewritten. -/
def RewordsOperator (operator : String) : Json → Json → Prop :=
  -- All keys are rewritten alike.
  Json.MemberChanged fun _ => RewordsValues operator

/-- The values of one operator of a condition are rewritten. -/
def RewordsCondition : Json → Json → Prop :=
  -- The name of the operator tells which changes there are.
  Json.MemberChanged RewordsOperator

/-- An element of a statement is rewritten as its name allows. -/
def RewordsElement : String → Json → Json → Prop
  -- Identifiers and effects have one written form each.
  | "Action" | "NotAction" | "Resource" | "NotResource" => RewordsTexts
  | "Principal" | "NotPrincipal" => RewordsBlock
  | "Condition" => RewordsCondition
  | _ => fun _ _ => False

/-- A single statement is put into a list or taken out of one, or an element of one rewritten. -/
inductive RewordsStatements : Json → Json → Prop where
  | wrapped (members : Json.Members Json) :
      RewordsStatements (.object members) (.array [.object members])
  | unwrapped (members : Json.Members Json) :
      RewordsStatements (.array [.object members]) (.object members)
  | single {value other : Json} (element : Json.MemberChanged RewordsElement value other) :
      RewordsStatements value other
  | item {earlier later : List Json} {value other : Json}
      (element : Json.MemberChanged RewordsElement value other) :
      RewordsStatements (.array (earlier ++ value :: later)) (.array (earlier ++ other :: later))

/-- A part of a document is rewritten as its name allows. -/
def RewordsPart : String → Json → Json → Prop
  -- The version and the identifier have one written form each.
  | "Statement" => RewordsStatements
  | _ => fun _ _ => False

/-- A tree is rewritten by one change: an object within it is reordered, or a part rewritten. -/
def Rewords : Json → Json → Prop :=
  -- Whether the tree is a document is left open.
  Json.OrReordered (Json.MemberChanged RewordsPart)

/-- Rewriting texts repeats no name. -/
theorem RewordsTexts.distinct {value other : Json} (reworded : RewordsTexts value other)
    (distinct : value.Distinct) : other.Distinct := by
  cases reworded with
  | wrapped text => simpa [Json.distinct_array_iff] using distinct
  | unwrapped text => exact .string text
  | moved perm =>
    rw [Json.distinct_array_iff] at distinct ⊢
    exact fun item inside => distinct item (perm.mem_iff.mpr inside)
  | repeated there =>
    rw [Json.distinct_array_iff] at distinct ⊢
    exact List.forall_mem_cons.mpr ⟨distinct _ there, distinct⟩

/-- A text that was written out names nothing. -/
theorem WritesOut.distinct {value other : Json} (out : WritesOut value other) : other.Distinct := by
  cases out with
  | truth => exact .string _
  | whole => exact .string _

/-- Rewriting values repeats no name. -/
theorem RewordsValues.distinct {operator : String} {value other : Json}
    (reworded : RewordsValues operator value other) (distinct : value.Distinct) :
    other.Distinct := by
  cases reworded with
  | wrapped scalar => simpa [Json.distinct_array_iff] using distinct
  | unwrapped scalar => simpa [Json.distinct_array_iff] using distinct
  | written out => exact out.distinct
  | writtenItem out =>
    simp only [Json.distinct_array_iff, List.forall_mem_append, List.forall_mem_cons] at distinct ⊢
    exact ⟨distinct.1, out.distinct, distinct.2.2⟩
  | moved _ perm =>
    rw [Json.distinct_array_iff] at distinct ⊢
    exact fun item inside => distinct item (perm.mem_iff.mpr inside)
  | repeated _ there =>
    rw [Json.distinct_array_iff] at distinct ⊢
    exact List.forall_mem_cons.mpr ⟨distinct _ there, distinct⟩

/-- Rewriting an element of a statement repeats no name. -/
theorem RewordsElement.distinct {name : String} {value other : Json}
    (reworded : RewordsElement name value other) (distinct : value.Distinct) : other.Distinct := by
  have texts (changed : RewordsTexts value other) : other.Distinct := changed.distinct distinct
  have block (changed : RewordsBlock value other) : other.Distinct :=
    changed.distinct (fun _ _ _ => RewordsTexts.distinct) distinct
  have condition (changed : RewordsCondition value other) : other.Distinct :=
    changed.distinct (fun _ _ _ within => within.distinct fun _ _ _ => RewordsValues.distinct)
      distinct
  unfold RewordsElement at reworded
  split at reworded
  · exact texts reworded
  · exact texts reworded
  · exact texts reworded
  · exact texts reworded
  · exact block reworded
  · exact block reworded
  · exact condition reworded
  · exact reworded.elim

/-- Rewriting the statements of a document repeats no name. -/
theorem RewordsStatements.distinct {value other : Json} (reworded : RewordsStatements value other)
    (distinct : value.Distinct) : other.Distinct := by
  have element {value other : Json} (changed : Json.MemberChanged RewordsElement value other)
      (distinct : value.Distinct) : other.Distinct :=
    changed.distinct (fun _ _ _ => RewordsElement.distinct) distinct
  cases reworded with
  | wrapped members => simpa [Json.distinct_array_iff] using distinct
  | unwrapped members => simpa [Json.distinct_array_iff] using distinct
  | single changed => exact element changed distinct
  | item changed =>
    simp only [Json.distinct_array_iff, List.forall_mem_append, List.forall_mem_cons] at distinct ⊢
    exact ⟨distinct.1, element changed distinct.2.1, distinct.2.2⟩

/-- Rewriting a part of a document repeats no name. -/
theorem RewordsPart.distinct {name : String} {value other : Json}
    (reworded : RewordsPart name value other) (distinct : value.Distinct) : other.Distinct := by
  unfold RewordsPart at reworded
  split at reworded
  · exact reworded.distinct distinct
  · exact reworded.elim

/-- Rewriting a tree repeats no name. -/
theorem Rewords.distinct {tree other : Json} (reworded : Rewords tree other)
    (distinct : tree.Distinct) : other.Distinct := by
  rcases reworded with reordered | changed
  · exact reordered.distinct distinct
  · exact changed.distinct (fun _ _ _ => RewordsPart.distinct) distinct

end AccessPolicy.Policy
