import AccessPolicy.Arn
import AccessPolicy.Proofs.Text.Cut

/-! Resource names: what was written is read again, and account numbers have a written name. -/

namespace AccessPolicy.Arn

/-- None of the parts before the last holds a colon. -/
structure Divided (arn : Arn) : Prop where
  partition : ':' ∉ arn.partition.toList
  service : ':' ∉ arn.service.toList
  region : ':' ∉ arn.region.toList
  account : ':' ∉ arn.account.toList

/-- The characters of a written resource name. -/
theorem toList_text (arn : Arn) :
    arn.text.toList = "arn".toList ++ ':' :: (arn.partition.toList ++ ':' ::
      (arn.service.toList ++ ':' :: (arn.region.toList ++ ':' ::
        (arn.account.toList ++ ':' :: arn.resource.toList)))) := by
  rw [text, Text.joined, String.toList_intercalate]
  simp [List.intercalate, List.intersperse]

/-- A written resource name has the shape of one. -/
theorem hasShape_text (arn : Arn) : hasShape arn.text = true := by
  have starts : "arn:".toList.isPrefixOf arn.text.toList = true := by
    simp [toList_text]
  -- The five colons between the parts are there, whatever the parts hold.
  have colons : 5 ≤ arn.text.toList.count ':' := by
    simp only [toList_text, List.count_append, List.count_cons_self]
    omega
  rw [hasShape, starts, decide_eq_true colons, Bool.and_self]

/-- Cutting at five colons finds the parts of a resource name. -/
theorem pieces_eq_iff {chars first partition service region account resource : List Char} :
    Text.piecesUpTo ':' 5 chars = [first, partition, service, region, account, resource] ↔
      (':' ∉ first ∧ ':' ∉ partition ∧ ':' ∉ service ∧ ':' ∉ region ∧ ':' ∉ account) ∧
        chars = first ++ ':' :: (partition ++ ':' :: (service ++ ':' :: (region ++ ':' ::
          (account ++ ':' :: resource)))) := by
  have last (rest : List Char) : Text.piecesUpTo ':' 0 rest = [resource] ↔ rest = resource := by
    simp [Text.piecesUpTo]
  -- One part after the other is in front of its colon, and what is left is the last.
  simp only [Text.piecesUpTo_eq_cons_iff, last]
  constructor
  · intro cuts
    obtain ⟨_, split, bare, _, rfl, bare₁, _, rfl, bare₂, _, rfl, bare₃, _, rfl, bare₄, rfl⟩ := cuts
    exact ⟨⟨bare, bare₁, bare₂, bare₃, bare₄⟩, split⟩
  · intro parts
    obtain ⟨⟨bare, bare₁, bare₂, bare₃, bare₄⟩, split⟩ := parts
    exact ⟨_, split, bare, _, rfl, bare₁, _, rfl, bare₂, _, rfl, bare₃, _, rfl, bare₄, rfl⟩

/-- A text is read as the parts that it was written from, if only the last part holds colons. -/
theorem read?_eq_some_iff {written : String} {arn : Arn} :
    read? written = some arn ↔ arn.Divided ∧ arn.text = written := by
  constructor
  · intro found
    unfold read? at found
    split at found
    · rename_i shape
      split at found
      · rename_i first partition service region account resource pieces
        obtain ⟨⟨bare, bare₁, bare₂, bare₃, bare₄⟩, whole⟩ := pieces_eq_iff.mp pieces
        -- The shape asks for the mark in front, which is therefore the first piece.
        have starts : "arn:".toList.isPrefixOf written.toList = true :=
          ((Bool.and_eq_true _ _).mp shape).1
        obtain ⟨rest, marked⟩ := List.isPrefixOf_iff_prefix.mp starts
        have behindMark : Text.cut ':' written.toList = ("arn".toList, some rest) :=
          Text.cut_eq_some_iff.mpr ⟨by simp [← marked], by decide⟩
        have behindFirst := Text.cut_eq_some_iff.mpr ⟨whole, bare⟩
        rw [behindMark] at behindFirst
        cases behindFirst
        cases found
        refine ⟨⟨?_, ?_, ?_, ?_⟩, ?_⟩
        · simpa using bare₁
        · simpa using bare₂
        · simpa using bare₃
        · simpa using bare₄
        · apply String.toList_injective
          simp only [toList_text, String.toList_ofList, whole]
      · cases found
    · cases found
  · intro ⟨divided, same⟩
    subst same
    have pieces := pieces_eq_iff.mpr ⟨⟨(by decide : ':' ∉ "arn".toList), divided.partition,
      divided.service, divided.region, divided.account⟩, toList_text arn⟩
    rw [read?, if_pos (hasShape_text arn), pieces]
    simp

/-- A text of the shape of a resource name is read as one. -/
theorem exists_read?_iff {written : String} :
    (∃ arn, read? written = some arn) ↔ hasShape written = true := by
  constructor
  · rintro ⟨arn, found⟩
    obtain ⟨-, rfl⟩ := read?_eq_some_iff.mp found
    exact hasShape_text arn
  · intro shape
    have colons : 5 ≤ written.toList.count ':' :=
      of_decide_eq_true ((Bool.and_eq_true _ _).mp shape).2
    have six : (Text.piecesUpTo ':' 5 written.toList).length = 6 := by
      rw [Text.length_piecesUpTo, Nat.min_eq_left colons]
    rw [read?, if_pos shape]
    generalize Text.piecesUpTo ':' 5 written.toList = pieces at six
    rcases pieces with _ | ⟨first, _ | ⟨partition, _ | ⟨service, _ | ⟨region, _ | ⟨account,
      _ | ⟨resource, _ | ⟨more, others⟩⟩⟩⟩⟩⟩⟩
    case cons.cons.cons.cons.cons.cons.nil => exact ⟨_, rfl⟩
    all_goals simp at six

/-- A text is an account number: it has twelve characters, and all of them are digits. -/
structure IsAccountNumber (text : String) : Prop where
  twelve : text.toList.length = 12
  digits : ∀ c ∈ text.toList, '0' ≤ c ∧ c ≤ '9'

/-- The test for account numbers finds them. -/
theorem isAccountId_iff {text : String} : isAccountId text = true ↔ IsAccountNumber text := by
  have digit (c : Char) : (Text.asciiDigit? c).isSome = true ↔ '0' ≤ c ∧ c ≤ '9' := by
    unfold Text.asciiDigit?
    split <;> simp [*]
  simp only [isAccountId, Bool.and_eq_true, decide_eq_true_iff, List.all_eq_true, digit]
  exact ⟨fun ⟨twelve, digits⟩ => ⟨twelve, digits⟩, fun number => ⟨number.twelve, number.digits⟩⟩

/-- The name of a root user has its parts as other resource names do. -/
theorem text_root (account partition : String) :
    text ⟨partition, "iam", "", account, "root"⟩ = accountRoot account partition := by
  apply String.toList_injective
  simp [accountRoot, toList_text]

/-- The name of a root user is read as one of the account, in its partition. -/
theorem read?_accountRoot {account partition : String} (bare : ':' ∉ account.toList)
    (bareToo : ':' ∉ partition.toList) :
    read? (accountRoot account partition) = some ⟨partition, "iam", "", account, "root"⟩ := by
  have divided : Divided ⟨partition, "iam", "", account, "root"⟩ := by
    refine ⟨bareToo, ?_, ?_, bare⟩ <;> simp
  exact read?_eq_some_iff.mpr ⟨divided, text_root account partition⟩

/--
Reading and writing resource names undo each other.

Exactly the texts of the shape of a resource name are read, and what was read is written as the same
text and holds colons in its last part alone. A resource name of such parts is read from its written
form, whatever its last part is, and so is the name of a root user.
-/
theorem read?_inverts_text (written : String) (arn : Arn) (account partition : String) :
    ((∃ found, read? written = some found) ↔ hasShape written = true) ∧
      (∀ found, read? written = some found → found.text = written ∧ found.Divided) ∧
      (arn.Divided → read? arn.text = some arn) ∧
      (':' ∉ account.toList → ':' ∉ partition.toList →
        read? (accountRoot account partition) = some ⟨partition, "iam", "", account, "root"⟩) := by
  refine ⟨exists_read?_iff, ?_, ?_, read?_accountRoot⟩
  · intro found read
    obtain ⟨divided, same⟩ := read?_eq_some_iff.mp read
    exact ⟨same, divided⟩
  · intro divided
    exact read?_eq_some_iff.mpr ⟨divided, rfl⟩

/-- A name with empty parts, and with colons at both ends of its last one, is read and written. -/
theorem read?_inverts_text_colons :
    let arn : Arn := ⟨"aws", "sns", "", "", ":topic::"⟩
    read? "arn:aws:sns::::topic::" = some arn ∧ arn.text = "arn:aws:sns::::topic::" ∧
      arn.Divided ∧ read? arn.text = some arn ∧ hasShape "arn:aws:sns:::topic" = true ∧
      read? (accountRoot "12" "aws-cn") = some ⟨"aws-cn", "iam", "", "12", "root"⟩ := by
  intro arn
  have inverts := read?_inverts_text "arn:aws:sns::::topic::" arn "12" "aws-cn"
  have read : read? "arn:aws:sns::::topic::" = some arn := by decide
  obtain ⟨same, divided⟩ := inverts.2.1 arn read
  exact ⟨read, same, divided, inverts.2.2.1 divided, by decide,
    inverts.2.2.2 (by simp) (by simp)⟩

namespace IsAccountNumber

variable {account : String} (number : IsAccountNumber account)
include number

/-- An account number holds no character but digits. -/
theorem not_mem {c : Char} (other : ¬ ('0' ≤ c ∧ c ≤ '9')) : c ∉ account.toList :=
  fun inside => other (number.digits c inside)

/-- An account number is no resource name, since it holds no letter. -/
theorem hasShape_eq_false : hasShape account = false := by
  have letter : 'a' ∉ account.toList := number.not_mem (by decide)
  have other : "arn:".toList.isPrefixOf account.toList = false := by
    rw [Bool.eq_false_iff]
    intro starts
    obtain ⟨rest, same⟩ := List.isPrefixOf_iff_prefix.mp starts
    exact letter (by simp [← same])
  rw [hasShape, other, Bool.false_and]

/-- The name of a root user is too long for an account number. -/
theorem isAccountId_root : isAccountId (accountRoot account "aws") = false := by
  have twelve := number.twelve
  have long : (accountRoot account "aws").toList.length = 30 := by
    simp [accountRoot, twelve]
  simp [isAccountId, long]

/-- The name of a root user is read as one of the account. -/
theorem read?_root :
    read? (accountRoot account "aws") = some ⟨"aws", "iam", "", account, "root"⟩ :=
  read?_accountRoot (number.not_mem (by decide)) (by simp)

/-- The name of a root user has no wildcard in it. -/
theorem hasWildcard_root : Glob.hasWildcard (accountRoot account "aws") = false := by
  have star : '*' ∉ account.toList := number.not_mem (by decide)
  have mark : '?' ∉ account.toList := number.not_mem (by decide)
  have plain : ∀ c ∈ (accountRoot account "aws").toList, ¬ (c = '*' ∨ c = '?') := by
    rintro c inside (rfl | rfl)
    · simp [accountRoot, star] at inside
    · simp [accountRoot, mark] at inside
  simpa [Glob.hasWildcard] using plain

end IsAccountNumber

end AccessPolicy.Arn
