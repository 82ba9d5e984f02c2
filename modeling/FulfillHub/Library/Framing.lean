import Mathlib

/-!
# Fields framed by a separator

Two fields written one after the other with a separator between them can be read back only when the
separator does not occur in the first of them. Over arbitrary fields the reading is ambiguous exactly where one
first field goes on, after a separator, from the other.
-/

namespace Framing

variable {α : Type} {sep : α} {a b x y : List α}

theorem append_sep_cases (h : a ++ sep :: x = b ++ sep :: y) :
    (a = b ∧ x = y) ∨ a ++ [sep] <+: b ∨ b ++ [sep] <+: a := by
  rcases List.append_eq_append_iff.mp h with ⟨rest, hb, hx⟩ | ⟨rest, ha, hy⟩
  · cases rest with
    | nil => exact .inl ⟨by simp [hb], by simpa using hx⟩
    | cons c rest =>
      obtain ⟨rfl, -⟩ := List.cons.inj hx
      exact .inr (.inl ⟨rest, by simp [hb]⟩)
  · cases rest with
    | nil => exact .inl ⟨by simp [ha], by simpa using hy.symm⟩
    | cons c rest =>
      obtain ⟨rfl, -⟩ := List.cons.inj hy
      exact .inr (.inr ⟨rest, by simp [ha]⟩)

theorem eq_of_append_sep (ha : sep ∉ a) (hb : sep ∉ b) (h : a ++ sep :: x = b ++ sep :: y) : a = b ∧ x = y := by
  rcases append_sep_cases h with heq | hab | hba
  · exact heq
  · exact absurd (hab.subset (by simp)) hb
  · exact absurd (hba.subset (by simp)) ha

/-- A first field that continues another one is framed like it, with a longer second field. -/
theorem exists_append_sep_eq (h : a ++ [sep] <+: b) (y : List α) : ∃ x, x ≠ y ∧ a ++ sep :: x = b ++ sep :: y := by
  obtain ⟨rest, rfl⟩ := h
  refine ⟨rest ++ sep :: y, ?_, by simp⟩
  intro heq
  have hlength := congrArg List.length heq
  simp only [List.length_append, List.length_cons] at hlength
  omega

/-! ### Any number of fields -/

theorem intercalate_shift (before after : List (List α)) (x y z : List α) :
    [sep].intercalate (before ++ x :: (y ++ sep :: z) :: after) =
      [sep].intercalate (before ++ (x ++ sep :: y) :: z :: after) := by
  induction before with
  | nil =>
    cases after with
    | nil => simp
    | cons a after => simp [List.intercalate_cons_cons]
  | cons b before ih =>
    cases before with
    | nil => simpa [List.intercalate_cons_cons] using ih
    | cons c before => simpa [List.intercalate_cons_cons] using ih

section Fields

variable [DecidableEq α] {fields other : List (List α)}

theorem count_intercalate (first : List α) (rest : List (List α)) :
    ([sep].intercalate (first :: rest)).count sep =
      ((first :: rest).map (List.count sep)).sum + rest.length := by
  induction rest generalizing first with
  | nil => simp
  | cons second rest ih =>
    rw [List.intercalate_cons_cons, List.count_append, List.count_append, ih, List.count_singleton_self]
    simp only [List.map_cons, List.sum_cons, List.length_cons]
    omega

theorem eq_of_intercalate (hlength : fields.length = other.length) (hfree : ∀ field ∈ fields, sep ∉ field)
    (h : [sep].intercalate fields = [sep].intercalate other) : fields = other := by
  cases fields with
  | nil => exact (List.length_eq_zero_iff.mp hlength.symm).symm
  | cons first rest =>
    cases other with
    | nil => simp at hlength
    | cons first' rest' =>
      have hcount := congrArg (List.count sep) h
      have hzero : ((first :: rest).map (List.count sep)).sum = 0 := by
        apply List.sum_eq_zero
        intro n hn
        obtain ⟨field, hfield, rfl⟩ := List.mem_map.mp hn
        exact List.count_eq_zero.mpr (hfree field hfield)
      have hother : ∀ field ∈ first' :: rest', sep ∉ field := by
        intro field hfield
        have hle := List.single_le_sum (fun _ _ => Nat.zero_le _) _ (List.mem_map_of_mem (f := List.count sep) hfield)
        rw [count_intercalate, count_intercalate, hzero] at hcount
        simp only [List.length_cons] at hlength
        apply List.count_eq_zero.mp
        omega
      rw [← List.splitOn_intercalate sep hfree (List.cons_ne_nil _ _), h,
        List.splitOn_intercalate sep hother (List.cons_ne_nil _ _)]

theorem exists_intercalate_eq (htwo : 2 ≤ fields.length) {field : List α} (hfield : field ∈ fields)
    (hsep : sep ∈ field) : ∃ other : List (List α), other.length = fields.length ∧
      [sep].intercalate other = [sep].intercalate fields ∧
      other.map (List.count sep) ≠ fields.map (List.count sep) := by
  obtain ⟨before, after, rfl⟩ := List.append_of_mem hfield
  obtain ⟨x, y, rfl⟩ := List.append_of_mem hsep
  cases after with
  | cons z after =>
    refine ⟨before ++ x :: (y ++ sep :: z) :: after, by simp, intercalate_shift .., ?_⟩
    intro hcounts
    simp at hcounts
  | nil =>
    -- the last field gives its beginning to the one before it
    obtain ⟨before, z, rfl⟩ := (List.eq_nil_or_concat' before).resolve_left (by rintro rfl; simp at htwo)
    refine ⟨before ++ (z ++ sep :: x) :: y :: [], by simp, ?_, ?_⟩
    · rw [← intercalate_shift]
      simp
    · intro hcounts
      simp at hcounts

end Fields

end Framing
