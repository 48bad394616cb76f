import AccessPolicy.Proofs.Policy.Acceptance
import AccessPolicy.Proofs.Policy.Breach

/-! Faults of elements: reading refuses a value exactly for the fault that the value has. -/

namespace AccessPolicy.Policy.Reader

variable {field : String} {value : Json} {fault : Fault}

/-- Texts are refused for what the value is instead. -/
theorem readTexts_eq_error_iff :
    readTexts field value = .error fault ↔ BreaksTexts field value fault := by
  constructor
  · intro refused
    unfold readTexts at refused
    split at refused
    · cases refused
    · rename_i items
      split at refused
      · rename_i empty
        cases refused
        rw [List.isEmpty_iff.mp empty]
        exact .empty
      · split at refused
        · cases refused
        · rename_i unread
          cases refused
          -- If all items were texts, these would have been read.
          by_cases other : ∃ item ∈ items, ∀ text, item ≠ Json.string text
          · obtain ⟨item, inside, noText⟩ := other
            exact .mixed inside noText
          · simp only [not_exists, not_and, not_forall, not_not] at other
            obtain ⟨texts, all⟩ := exists_forall₂_iff.mpr other
            rw [forall₂_eq_map_iff] at all
            simp [Json.mapM_string?_eq_some_iff.mpr all] at unread
    · rename_i noText noList
      cases refused
      exact .neither noText noList
  · intro broken
    cases broken with
    | empty => rfl
    | @mixed items item inside other =>
      have filled : items.isEmpty = false :=
        List.isEmpty_eq_false_iff.mpr (List.ne_nil_of_mem inside)
      cases read : items.mapM Json.string? with
      | none => simp [readTexts, filled, read]
      | some texts =>
        rw [Json.mapM_string?_eq_some_iff] at read
        subst read
        obtain ⟨text, -, same⟩ := List.mem_map.mp inside
        exact absurd same.symm (other text)
    | neither noText noList =>
      cases value with
      | string text => exact absurd rfl (noText text)
      | array items => exact absurd rfl (noList items)
      | _ => rfl

/-- Patterns are refused for what the value is instead, or for the first text that is none. -/
theorem readPatterns_eq_error_iff {isPattern : String → Bool} {fits : String → Prop}
    (decides : ∀ text, isPattern text = true ↔ fits text) :
    readPatterns isPattern field value = .error fault ↔ BreaksPatterns fits field value fault := by
  simp only [breaksPatterns_iff, ← readTexts_eq_error_iff, ← @readTexts_eq_ok_iff field,
    ← find?_not_eq_some_iff decides, readPatterns]
  cases readTexts field value with
  | error other => simp
  | ok texts =>
    cases unfit : texts.find? fun pattern => !isPattern pattern <;> simp [unfit, eq_comm]

/-- An element is refused for its two spellings, or for the value of the one that is there. -/
theorem breaksElement_iff {α : Type} {read : String → Json → Except Fault α}
    {breaks : String → Json → Fault → Prop}
    (refuses : ∀ field value fault, read field value = .error fault ↔ breaks field value fault)
    {element : String} {members : Json.Members Json} :
    BreaksElement breaks element members fault ↔
      findSpelling element members = .error fault ∨
        ∃ spelling, findSpelling element members = .ok (some spelling) ∧
          readSelection read element spelling = .error fault := by
  constructor
  · intro broken
    cases broken with
    | both here there => exact Or.inl (by simp [findSpelling, here, there])
    | covered there alone broken =>
      exact Or.inr ⟨.only _, findSpelling_eq_ok_iff.mpr ⟨there, alone⟩,
        map_eq_error_iff.mpr ((refuses _ _ _).mpr broken)⟩
    | leftOut there alone broken =>
      exact Or.inr ⟨.allBut _, findSpelling_eq_ok_iff.mpr ⟨alone, there⟩,
        map_eq_error_iff.mpr ((refuses _ _ _).mpr broken)⟩
  · rintro (both | ⟨spelling, found, refused⟩)
    · unfold findSpelling at both
      split at both
      · rename_i here there
        cases both
        exact .both here there
      all_goals cases both
    · obtain ⟨here, there⟩ := findSpelling_eq_ok_iff.mp found
      cases spelling with
      | only value =>
        exact .covered here there ((refuses _ _ _).mp (map_eq_error_iff.mp refused))
      | allBut value =>
        exact .leftOut there here ((refuses _ _ _).mp (map_eq_error_iff.mp refused))

/-- An element of patterns is refused where it is missing, or for a fault that it has. -/
theorem readPatternElement_eq_error_iff {isPattern : String → Bool} {fits : String → Prop}
    (decides : ∀ text, isPattern text = true ↔ fits text) {element : String}
    {members : Json.Members Json} :
    readPatternElement isPattern element members = .error fault ↔
      BreaksPatternElement fits element members fault := by
  rw [breaksPatternElement_iff, ← findSpelling_eq_none_iff_lacks,
    breaksElement_iff fun _ _ _ => readPatterns_eq_error_iff decides, readPatternElement]
  rcases findSpelling element members with other | _ | spelling
  · simp
  · simp [eq_comm]
  · simp

/-- Principals of a kind are refused for the kind, for what the value is, or for a name in it. -/
theorem readPrincipals_eq_error_iff {lists : PrincipalLists} {member : String × Json} :
    readPrincipals field lists member = .error fault ↔ BreaksPrincipals field member fault := by
  obtain ⟨name, value⟩ := member
  constructor
  · intro refused
    unfold readPrincipals at refused
    split at refused
    · rename_i unlisted
      cases refused
      refine .kind fun kind same => ?_
      simp [PrincipalKind.lookup_named_eq_some_iff.mpr same] at unlisted
    · rename_i kind listed
      obtain rfl : kind.name = name := PrincipalKind.lookup_named_eq_some_iff.mp listed
      split at refused
      · rename_i unread
        cases refused
        exact .texts (readTexts_eq_error_iff.mp unread)
      · rename_i names read
        split at refused
        · rename_i unfit
          cases refused
          by_cases account : kind = .aws
          · subst account
            rw [if_pos rfl, find?_not_eq_some_iff fun _ => isAwsPrincipal_iff] at unfit
            exact .account (readTexts_eq_ok_iff.mp read) unfit
          · simp [account] at unfit
        · cases refused
  · intro broken
    cases broken with
    | kind unknown =>
      have unlisted : PrincipalKind.named.lookup name = none := by
        rw [Option.eq_none_iff_forall_ne_some]
        exact fun kind listed => unknown kind (PrincipalKind.lookup_named_eq_some_iff.mp listed)
      simp [readPrincipals, unlisted]
    | @texts kind _ _ broken =>
      have listed := PrincipalKind.lookup_named_eq_some_iff.mpr (rfl : kind.name = kind.name)
      simp [readPrincipals, listed, readTexts_eq_error_iff.mpr broken]
    | account written first =>
      have listed : PrincipalKind.named.lookup PrincipalKind.aws.name = some .aws := rfl
      rw [← find?_not_eq_some_iff fun _ => isAwsPrincipal_iff] at first
      simp [readPrincipals, listed, readTexts_eq_ok_iff.mpr written, first]

/-- The principals of a member are read where it names a kind and principals of that. -/
theorem readPrincipals_accepted_iff {lists : PrincipalLists} {member : String × Json} :
    (∃ others, readPrincipals field lists member = .ok others) ↔ NamesPrincipals member := by
  have one := @foldlM_readPrincipals_accepted_iff field [member] lists
  simpa [NamesPrincipals, bind_eq_ok_iff, pure, Except.pure] using one

/-- A block is refused for what it is instead, or for its first faulty member. -/
theorem readBlock_eq_error_iff :
    readBlock field value = .error fault ↔ BreaksBlock field value fault := by
  have passes (lists : PrincipalLists) (member : String × Json) :
      (∃ others, readPrincipals field lists member = .ok others) ↔ NamesPrincipals member :=
    readPrincipals_accepted_iff
  have fails (lists : PrincipalLists) (member : String × Json) (fault : Fault) :
      readPrincipals field lists member = .error fault ↔ BreaksPrincipals field member fault :=
    readPrincipals_eq_error_iff
  constructor
  · intro refused
    unfold readBlock at refused
    split at refused
    · split at refused
      · cases refused
      · rename_i text narrow
        cases refused
        exact .shape (by simpa [Arn.wildcard] using narrow) (by simp)
    · split at refused
      · rename_i empty
        cases refused
        refine .shape (by simp) fun _ same => ?_
        cases same
        exact List.isEmpty_iff.mp empty
      · obtain ⟨member, first, broken⟩ :=
          (foldlM_eq_error_iff passes fails).mp (map_eq_error_iff.mp refused)
        exact .member first broken
    · rename_i noText noObject
      cases refused
      exact .shape (noText _) fun inner same => absurd same (noObject inner)
  · intro broken
    cases broken with
    | shape narrow unfilled =>
      unfold readBlock
      split
      · rename_i text
        rw [if_neg (by simpa [Arn.wildcard] using narrow)]
      · simp [unfilled _ rfl]
      · rfl
    | @member inner member fault first broken =>
      have refused : inner.foldlM (readPrincipals field) .empty = .error fault :=
        (foldlM_eq_error_iff passes fails).mpr ⟨member, first, broken⟩
      obtain ⟨before, after, split, -, -⟩ := first
      have filled : inner.isEmpty = false := by simp [split]
      simp [readBlock, filled, refused, Except.map]

/-- The principal element is refused for its spellings, or for a fault of its block. -/
theorem readPrincipalElement_eq_error_iff {members : Json.Members Json} :
    readPrincipalElement members = .error fault ↔
      BreaksElement BreaksBlock "Principal" members fault := by
  rw [breaksElement_iff fun _ _ _ => readBlock_eq_error_iff, readPrincipalElement]
  rcases findSpelling "Principal" members with other | _ | spelling
  · simp
  · simp
  · simp [map_eq_error_iff]

end AccessPolicy.Policy.Reader
